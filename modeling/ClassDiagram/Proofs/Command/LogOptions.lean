import ClassDiagram.Command.Invocation
import ClassDiagram.Proofs.Command.Options

/-! # What stands before a subcommand

The options before a subcommand only say what a run tells about itself.  `LogOptions` lists them in
each of the ways to write them.  Every command line that is accepted is made of such options, a
subcommand and the arguments of the subcommand, and these alone decide on the task
(`ofArguments_eq_ok`).  A command line is taken apart in only one way (`LogOptions.append_inj`), so
the task does not depend on the options in front. -/

namespace ClassDiagram.Command

/-- The names of the options that are followed by a value. -/
def valuedNames : List String := ["log-level", "log-format"]

/-- An option before a subcommand, as it can be written. -/
inductive LogOption : List String → Prop where
  | verbose : LogOption ["--verbose"]
  | letter : LogOption ["-v"]
  | valued {name value : String} {arguments : List String} (hname : name ∈ valuedNames)
      (hspells : Spells name none value arguments) : LogOption arguments

/-- Options one after the other. -/
inductive LogOptions : List String → Prop where
  | nil : LogOptions []
  | cons {option rest : List String} : LogOption option → LogOptions rest →
      LogOptions (option ++ rest)

/-! ### Taking a command line apart -/

/-- An option starts with a dash, and its first argument tells whether a second one belongs to
it. -/
theorem LogOption.exists_cons {option : List String} (h : LogOption option) :
    ∃ first more, option = first :: more ∧ first.toList.head? = some '-' ∧
      more.length = if first ∈ valuedNames.map ("--" ++ ·) then 1 else 0 := by
  cases h with
  | verbose => exact ⟨_, _, rfl, by decide, by decide⟩
  | letter => exact ⟨_, _, rfl, by decide, by decide⟩
  | @valued name value _ hname hspells =>
      cases hspells with
      | apart _ =>
          refine ⟨_, _, rfl, ?_, ?_⟩
          · rw [String.toList_append]
            rfl
          · rw [if_pos (List.mem_map_of_mem hname)]
            rfl
      | attached =>
          refine ⟨_, _, rfl, ?_, ?_⟩
          · rw [String.append_assoc, String.append_assoc, String.toList_append]
            rfl
          · have hsign : '=' ∈ ("--" ++ name ++ "=" ++ value).toList := by simp
            have hnames : ∀ first ∈ valuedNames.map ("--" ++ ·), '=' ∉ first.toList := by decide
            rw [if_neg fun hmem => hnames _ hmem hsign]
            rfl
      | letterApart hletter _ => cases hletter
      | letterAttached hletter => cases hletter
      | letterGlued hletter _ _ => cases hletter

/-- The subcommand is the first argument that is not taken up by the options. -/
theorem LogOptions.append_inj {options options' : List String} (h : LogOptions options)
    (h' : LogOptions options') {name name' : String} {rest rest' : List String}
    (hname : name.toList.head? ≠ some '-') (hname' : name'.toList.head? ≠ some '-')
    (heq : options ++ name :: rest = options' ++ name' :: rest') :
    name = name' ∧ rest = rest' := by
  induction h generalizing options' with
  | nil =>
      cases h' with
      | nil => exact List.cons.inj heq
      | cons hoption _ =>
          obtain ⟨first, more, rfl, hdash, -⟩ := hoption.exists_cons
          obtain ⟨rfl, -⟩ := List.cons.inj heq
          exact absurd hdash hname
  | cons hoption _ ih =>
      obtain ⟨first, more, rfl, hdash, hlength⟩ := hoption.exists_cons
      cases h' with
      | nil =>
          obtain ⟨rfl, -⟩ := List.cons.inj heq
          exact absurd hdash hname'
      | cons hoption' hoptions' =>
          obtain ⟨first', more', rfl, -, hlength'⟩ := hoption'.exists_cons
          rw [List.append_assoc, List.append_assoc] at heq
          obtain ⟨rfl, htail⟩ := List.cons.inj heq
          have hmore := List.append_inj htail (hlength.trans hlength'.symm)
          exact ih hoptions' hmore.2

/-! ### Accepted command lines -/

/-- An option that is noted before a subcommand is one that says what is told. -/
theorem logOption_of_written {o : OptionSpec} (ho : o ∈ topGrammar.options) {text : String}
    {arguments : List String} (hwritten : o.Written text arguments) : LogOption arguments := by
  simp only [topGrammar, List.mem_cons, List.not_mem_nil, or_false] at ho
  rcases ho with rfl | rfl | rfl | rfl | rfl
  · cases hwritten with
    | flag => exact .verbose
    | letter _ _ hletter =>
        cases hletter
        exact .letter
    | valued hvalue => cases hvalue
  · cases hwritten with
    | flag hvalue => cases hvalue
    | letter hvalue => cases hvalue
    | valued _ _ hspells => exact .valued (by decide) hspells
  · cases hwritten with
    | flag hvalue => cases hvalue
    | letter hvalue => cases hvalue
    | valued _ _ hspells => exact .valued (by decide) hspells
  · cases hwritten with
    | flag _ heffect => cases heffect
    | letter _ heffect => cases heffect
    | valued hvalue => cases hvalue
  · cases hwritten with
    | flag _ heffect => cases heffect
    | letter _ heffect => cases heffect
    | valued hvalue => cases hvalue

theorem logOptions_of_reads {noted final : List (String × String)} {arguments : List String}
    (h : Reads topGrammar.options noted arguments final) : LogOptions arguments := by
  induction h with
  | done noted => exact .nil
  | next ho hwritten _ _ ih => exact .cons (logOption_of_written ho hwritten) ih

theorem loneLetters_topGrammar : LoneLetters topGrammar.options := by
  unfold LoneLetters
  decide

/-- The subcommands that stand for a task. -/
def taskNames : List String := ["render", "generate", "inspect"]

/-- **An accepted command line** is made of options that say what is told, a subcommand, and the
arguments that decide on the task. -/
theorem ofArguments_eq_ok {arguments : List String} {invocation : Invocation}
    (h : Invocation.ofArguments arguments = .ok invocation) :
    ∃ options name rest, arguments = options ++ name :: rest ∧ LogOptions options ∧
      name ∈ taskNames ∧ readTask name rest = .ok invocation.task := by
  obtain ⟨⟨g, subcommand⟩, hread, hrest⟩ := Except.bind_eq_ok.mp h
  cases subcommand with
  | none =>
      obtain ⟨g', -, hthrow⟩ := Except.bind_eq_ok.mp hrest
      cases hthrow
  | some part =>
      obtain ⟨name, rest⟩ := part
      obtain ⟨task, htask, hrest⟩ := Except.bind_eq_ok.mp hrest
      obtain ⟨g', hsettle, hdone⟩ := Except.bind_eq_ok.mp hrest
      cases hdone
      obtain ⟨options, _, rfl, hends, hreads⟩ :=
        readArguments_sound loneLetters_topGrammar (.closed rfl) hread hsettle
      obtain ⟨hname⟩ := hends
      refine ⟨options, name, rest, rfl, logOptions_of_reads hreads, ?_, htask⟩
      simp only [topGrammar, List.mem_cons, List.not_mem_nil, or_false] at hname
      rcases hname with rfl | rfl | rfl | rfl
      · decide
      · decide
      · decide
      · rw [readTask, if_pos rfl] at htask
        cases htask

theorem head?_taskNames : ∀ name ∈ taskNames, name.toList.head? ≠ some '-' := by
  decide

/-- What stands before the subcommand has no part in the task. -/
theorem readTask_of_ofArguments {options rest : List String} {name : String}
    {invocation : Invocation} (hoptions : LogOptions options) (hname : name ∈ taskNames)
    (h : Invocation.ofArguments (options ++ name :: rest) = .ok invocation) :
    readTask name rest = .ok invocation.task := by
  obtain ⟨options', name', rest', heq, hoptions', hname', htask⟩ := ofArguments_eq_ok h
  obtain ⟨rfl, rfl⟩ := hoptions.append_inj hoptions' (head?_taskNames name hname)
    (head?_taskNames name' hname') heq
  exact htask

end ClassDiagram.Command
