import ClassDiagram.Command.Run
import ClassDiagram.Proofs.Command.LogOptions

/-! # What a command line asks for

The arguments of a subcommand choose an input, an output, a filter, a theme and a form of the report
(`Choices.Written`).  With what is not chosen left at its default, they ask for a job: where the
graph comes from, where the result goes, and which result that is (`Asks`).  All this is said
without the reader of arguments.  The job that is asked for is just the one of the task that is read
(`asks_iff`). -/

namespace ClassDiagram.Command

/-- What the arguments of a subcommand choose. -/
structure Choices where
  input : Option String := none
  output : Option String := none
  filter : Option Filter := none
  theme : Option String := none
  json : Bool := false

/-- Choices as they are written: in any order, none of them twice, and with a double dash at the end
or without. -/
inductive Choices.Written : Choices → List String → Prop where
  | done : Written {} []
  | dashes : Written {} ["--"]
  | input {c : Choices} {path : String} {arguments rest : List String}
      (hspells : Spells "input" (some 'i') path arguments) (hpath : path ≠ "")
      (hnew : c.input = none) (hrest : c.Written rest) :
      Written { c with input := some path } (arguments ++ rest)
  | output {c : Choices} {path : String} {arguments rest : List String}
      (hspells : Spells "output" (some 'o') path arguments) (hpath : path ≠ "")
      (hnew : c.output = none) (hrest : c.Written rest) :
      Written { c with output := some path } (arguments ++ rest)
  | filter {c : Choices} {filter : Filter} {arguments rest : List String}
      (hspells : Spells "visibility" none filter.title arguments)
      (hnew : c.filter = none) (hrest : c.Written rest) :
      Written { c with filter := some filter } (arguments ++ rest)
  | theme {c : Choices} {theme : String} {arguments rest : List String}
      (hspells : Spells "theme" none theme arguments)
      (hnew : c.theme = none) (hrest : c.Written rest) :
      Written { c with theme := some theme } (arguments ++ rest)
  | json {c : Choices} {rest : List String} (hnew : c.json = false) (hrest : c.Written rest) :
      Written { c with json := true } (["--json"] ++ rest)

/-- What is to be done: where the graph comes from, where the result goes, and what it is.  An
absent input or output is the standard one. -/
structure Job where
  input : Option String
  output : Option String
  result : Graph → String

/-- The job of a task. -/
def Task.job (task : Task) : Job := ⟨task.input, task.output, (task.result ·)⟩

/-- **What a subcommand and its arguments ask for**: the text of a diagram, a module that embeds all
diagrams, or a report, which is always shown.  Each subcommand has its own choices; the filter is
the wide one and the theme the default one, unless another is chosen. -/
inductive Asks : String → List String → Job → Prop where
  | render {c : Choices} {arguments : List String} (hwritten : c.Written arguments)
      (hjson : c.json = false) :
      Asks "render" arguments ⟨c.input, c.output, fun g =>
        ClassDiagram.render (c.theme.getD defaultTheme) g (c.filter.getD .publicOrInternal)⟩
  | generate {c : Choices} {arguments : List String} (hwritten : c.Written arguments)
      (hfilter : c.filter = none) (hjson : c.json = false) :
      Asks "generate" arguments ⟨c.input, c.output, fun g =>
        SourceModule.write (renderAll (c.theme.getD defaultTheme) g)⟩
  | inspect {c : Choices} {arguments : List String} (hwritten : c.Written arguments)
      (houtput : c.output = none) (htheme : c.theme = none) :
      Asks "inspect" arguments ⟨c.input, none, fun g =>
        let report := ClassDiagram.inspect g (c.filter.getD .publicOrInternal)
        if c.json then report.toJson.pretty ++ "\n" else Text.unlines report.lines⟩

/-! ### Choices and options -/

/-- All options that a subcommand can have. -/
def taskOptions : List OptionSpec :=
  [inputOption, outputOption, visibilityOption, themeOption, jsonOption, helpOption]

/-- A choice under the name of its option, as it is written. -/
def Choices.value? (c : Choices) : String → Option String
  | "input" => c.input
  | "output" => c.output
  | "visibility" => c.filter.map Filter.title
  | "theme" => c.theme
  | "json" => if c.json then some "" else none
  | _ => none

/-- One more choice is made, and the others stay. -/
def Choices.Sets (c c' : Choices) (name text : String) : Prop :=
  c.value? name = none ∧ ∀ n, c'.value? n = if n = name then some text else c.value? n

section sets
variable {c : Choices}

theorem Choices.sets_input {path : String} (hnew : c.input = none) :
    c.Sets { c with input := some path } "input" path := by
  refine ⟨hnew, fun n => ?_⟩
  unfold value?
  split <;> simp_all

theorem Choices.sets_output {path : String} (hnew : c.output = none) :
    c.Sets { c with output := some path } "output" path := by
  refine ⟨hnew, fun n => ?_⟩
  unfold value?
  split <;> simp_all

theorem Choices.sets_filter {filter : Filter} (hnew : c.filter = none) :
    c.Sets { c with filter := some filter } "visibility" filter.title := by
  refine ⟨by rw [value?, hnew]; rfl, fun n => ?_⟩
  unfold value?
  split <;> simp_all

theorem Choices.sets_theme {theme : String} (hnew : c.theme = none) :
    c.Sets { c with theme := some theme } "theme" theme := by
  refine ⟨hnew, fun n => ?_⟩
  unfold value?
  split <;> simp_all

theorem Choices.sets_json (hnew : c.json = false) :
    c.Sets { c with json := true } "json" "" := by
  refine ⟨by rw [value?, hnew]; rfl, fun n => ?_⟩
  unfold value?
  split <;> simp_all

end sets

/-- An option that is noted makes a choice. -/
theorem Choices.exists_sets {o : OptionSpec} (ho : o ∈ taskOptions) {text : String}
    {arguments rest : List String} (hoption : o.Written text arguments) {c : Choices}
    (hnew : c.value? o.long = none) (hrest : c.Written rest) :
    ∃ c', c'.Written (arguments ++ rest) ∧ c.Sets c' o.long text := by
  simp only [taskOptions, List.mem_cons, List.not_mem_nil, or_false] at ho
  rcases ho with rfl | rfl | rfl | rfl | rfl | rfl
  · cases hoption with
    | flag hvalue => cases hvalue
    | letter hvalue => cases hvalue
    | valued hvalue hallows hspells =>
        cases hvalue
        exact ⟨_, .input hspells hallows hnew hrest, sets_input hnew⟩
  · cases hoption with
    | flag hvalue => cases hvalue
    | letter hvalue => cases hvalue
    | valued hvalue hallows hspells =>
        cases hvalue
        exact ⟨_, .output hspells hallows hnew hrest, sets_output hnew⟩
  · cases hoption with
    | flag hvalue => cases hvalue
    | letter hvalue => cases hvalue
    | valued hvalue hallows hspells =>
        cases hvalue
        have hfilter : c.filter = none := Option.map_eq_none_iff.mp hnew
        obtain ⟨filter, -, rfl⟩ := List.mem_map.mp hallows.2
        exact ⟨_, .filter hspells hfilter hrest, sets_filter hfilter⟩
  · cases hoption with
    | flag hvalue => cases hvalue
    | letter hvalue => cases hvalue
    | valued hvalue hallows hspells =>
        cases hvalue
        exact ⟨_, .theme hspells hnew hrest, sets_theme hnew⟩
  · have hjson : c.json = false := by
      cases hc : c.json with
      | false => rfl
      | true => simp [value?, jsonOption, hc] at hnew
    cases hoption with
    | flag => exact ⟨_, .json hjson hrest, sets_json hjson⟩
    | letter _ _ hletter => cases hletter
    | valued hvalue => cases hvalue
  · cases hoption with
    | flag _ heffect => cases heffect
    | letter _ heffect => cases heffect
    | valued hvalue => cases hvalue

/-- Options and choices say the same: the values that are noted at last are those that were noted
before and those of the choices, which are new. -/
structure Choices.Adds (specs : List OptionSpec) (noted : List (String × String)) (c : Choices)
    (final : List (String × String)) : Prop where
  lookup_eq : ∀ n, final.lookup n = (c.value? n).or (noted.lookup n)
  new : ∀ n, c.value? n ≠ none → noted.lookup n = none
  known : ∀ n, c.value? n ≠ none → n ∈ specs.map OptionSpec.long

section adds
variable {specs : List OptionSpec} {noted final : List (String × String)} {c c' : Choices}

theorem Choices.adds_nothing (specs : List OptionSpec) (noted : List (String × String)) :
    Choices.Adds specs noted {} noted := by
  have hnone : ∀ n, ({} : Choices).value? n = none := by
    intro n
    unfold value?
    split <;> rfl
  constructor
  · intro n
    rw [hnone, Option.none_or]
  · intro n h
    exact absurd (hnone n) h
  · intro n h
    exact absurd (hnone n) h

/-- A choice more is an option that was noted first. -/
theorem Choices.Sets.adds_iff {o : OptionSpec} (ho : o ∈ specs) {text : String}
    (hsets : c.Sets c' o.long text) (hnew : noted.lookup o.long = none) :
    c.Adds specs ((o.long, text) :: noted) final ↔ c'.Adds specs noted final := by
  obtain ⟨hnone, hvalue⟩ := hsets
  have hself : c'.value? o.long = some text := by rw [hvalue, if_pos rfl]
  have hother : ∀ n, n ≠ o.long → c'.value? n = c.value? n := fun n hne => by
    rw [hvalue, if_neg hne]
  have hlookup : ∀ n, n ≠ o.long → ((o.long, text) :: noted).lookup n = noted.lookup n := by
    intro n hne
    rw [List.lookup_cons, beq_eq_false_iff_ne.mpr hne]
  constructor
  · intro h
    constructor
    · intro n
      by_cases hn : n = o.long
      · rw [h.lookup_eq, hn, hnone, hself, List.lookup_cons_self]
        rfl
      · rw [h.lookup_eq, hother n hn, hlookup n hn]
    · intro n hn
      by_cases heq : n = o.long
      · rw [heq, hnew]
      · rw [← hlookup n heq]
        exact h.new n (hother n heq ▸ hn)
    · intro n hn
      by_cases heq : n = o.long
      · rw [heq]
        exact List.mem_map_of_mem ho
      · exact h.known n (hother n heq ▸ hn)
  · intro h
    have hne : ∀ n, c.value? n ≠ none → n ≠ o.long := by
      rintro n hn rfl
      exact hn hnone
    constructor
    · intro n
      by_cases hn : n = o.long
      · rw [h.lookup_eq, hn, hnone, hself, List.lookup_cons_self]
        rfl
      · rw [h.lookup_eq, hother n hn, hlookup n hn]
    · intro n hn
      rw [hlookup n (hne n hn)]
      exact h.new n ((hother n (hne n hn)).symm ▸ hn)
    · intro n hn
      exact h.known n ((hother n (hne n hn)).symm ▸ hn)

variable (hspecs : ∀ o ∈ specs, o ∈ taskOptions)
include hspecs

/-- Options that are read one after the other make choices. -/
theorem exists_choices {grammar : Grammar} {options rest : List String}
    (hends : Ends grammar none rest) (hreads : Reads specs noted options final) :
    ∃ c : Choices, c.Written (options ++ rest) ∧ c.Adds specs noted final := by
  induction hreads with
  | done noted =>
      refine ⟨{}, ?_, Choices.adds_nothing specs noted⟩
      cases hends with
      | nothing => exact .done
      | dashes => exact .dashes
  | @next o _ _ _ _ _ ho hwritten hnew _ ih =>
      obtain ⟨c, hrest, hadds⟩ := ih
      have hunset : c.value? o.long = none := by
        by_contra hset
        have hfound := hadds.new _ hset
        rw [List.lookup_cons_self] at hfound
        cases hfound
      obtain ⟨c', hwritten', hsets⟩ := Choices.exists_sets (hspecs _ ho) hwritten hunset hrest
      rw [← List.append_assoc] at hwritten'
      exact ⟨c', hwritten', (hsets.adds_iff ho hnew).mp hadds⟩

/-- An option is known by its name. -/
theorem mem_of_long_mem {o : OptionSpec} (ho : o ∈ taskOptions)
    (hlong : o.long ∈ specs.map OptionSpec.long) : o ∈ specs := by
  have hnodup : (taskOptions.map OptionSpec.long).Nodup := by decide
  obtain ⟨o', ho', heq⟩ := List.mem_map.mp hlong
  have hfind := find?_of_nodup hnodup ho
  rw [← heq, find?_of_nodup hnodup (hspecs o' ho')] at hfind
  exact Option.some.inj hfind ▸ ho'

/-- The arguments are options that make the choices, if these are new and known. -/
def Choices.ReadFrom (specs : List OptionSpec) (grammar : Grammar) (c : Choices)
    (arguments : List String) : Prop :=
  ∀ noted : List (String × String), (∀ n, c.value? n ≠ none → noted.lookup n = none) →
    (∀ n, c.value? n ≠ none → n ∈ specs.map OptionSpec.long) →
    ∃ options rest final, arguments = options ++ rest ∧ Ends grammar none rest ∧
      Reads specs noted options final ∧ c.Adds specs noted final

/-- An option in front makes one more choice. -/
theorem Choices.ReadFrom.next {grammar : Grammar} {o : OptionSpec} (ho : o ∈ taskOptions)
    {text : String} {arguments rest : List String} (hoption : o.Written text arguments)
    (hsets : c.Sets c' o.long text) (h : c.ReadFrom specs grammar rest) :
    c'.ReadFrom specs grammar (arguments ++ rest) := by
  intro noted hnew hknown
  obtain ⟨hnone, hvalue⟩ := hsets
  have hset : c'.value? o.long ≠ none := by
    rw [hvalue, if_pos rfl]
    exact nofun
  have hmem := mem_of_long_mem hspecs ho (hknown _ hset)
  have hkept : ∀ n, c.value? n ≠ none → n ≠ o.long ∧ c'.value? n ≠ none := by
    intro n hn
    have hne : n ≠ o.long := by
      rintro rfl
      exact hn hnone
    rw [hvalue, if_neg hne]
    exact ⟨hne, hn⟩
  have hnew' : ∀ n, c.value? n ≠ none → ((o.long, text) :: noted).lookup n = none := by
    intro n hn
    rw [List.lookup_cons, beq_eq_false_iff_ne.mpr (hkept n hn).1]
    exact hnew n (hkept n hn).2
  obtain ⟨options, rest', final, rfl, hends, hreads, hadds⟩ :=
    h _ hnew' fun n hn => hknown n (hkept n hn).2
  refine ⟨arguments ++ options, rest', final, by rw [List.append_assoc], hends, ?_, ?_⟩
  · exact .next hmem hoption (hnew _ hset) hreads
  · exact (Choices.Sets.adds_iff hmem ⟨hnone, hvalue⟩ (hnew _ hset)).mp hadds

theorem Choices.Written.readFrom (grammar : Grammar) {arguments : List String}
    (hwritten : c.Written arguments) : c.ReadFrom specs grammar arguments := by
  induction hwritten with
  | done => exact fun noted _ _ => ⟨[], [], noted, rfl, .nothing, .done noted, adds_nothing _ _⟩
  | dashes => exact fun noted _ _ => ⟨[], _, noted, rfl, .dashes, .done noted, adds_nothing _ _⟩
  | input hspells hpath hnew _ ih =>
      have hoption : inputOption.Written _ _ := .valued rfl hpath hspells
      exact .next hspecs (by simp [taskOptions]) hoption (sets_input hnew) ih
  | output hspells hpath hnew _ ih =>
      have hoption : outputOption.Written _ _ := .valued rfl hpath hspells
      exact .next hspecs (by simp [taskOptions]) hoption (sets_output hnew) ih
  | @filter _ filter _ _ hspells hnew _ ih =>
      have hallows : filter.title ≠ "" ∧ filter.title ∈ Filter.all.map Filter.title := by
        cases filter <;> decide
      have hoption : visibilityOption.Written _ _ := .valued rfl hallows hspells
      exact .next hspecs (by simp [taskOptions]) hoption (sets_filter hnew) ih
  | theme hspells hnew _ ih =>
      have hoption : themeOption.Written _ _ := .valued rfl trivial hspells
      exact .next hspecs (by simp [taskOptions]) hoption (sets_theme hnew) ih
  | json hnew _ ih =>
      have hoption : jsonOption.Written "" ["--json"] := .flag rfl rfl
      exact .next hspecs (by simp [taskOptions]) hoption (sets_json hnew) ih

end adds

/-! ### The task that is read -/

section given
variable {g : Given} {c : Choices} (h : ∀ n, g.value? n = c.value? n)
include h

theorem Given.filter_eq : g.filter = c.filter.getD .publicOrInternal := by
  rw [Given.filter, h]
  show ((c.filter.map Filter.title).bind _).getD _ = _
  cases c.filter with
  | none => rfl
  | some filter => cases filter <;> decide

theorem Given.has_json : g.has "json" = c.json := by
  rw [Given.has_eq]
  show (g.value? "json").isSome = _
  rw [h, Choices.value?]
  cases c.json <;> rfl

theorem job_render : (taskOf "render" g).job = ⟨c.input, c.output, fun g =>
    ClassDiagram.render (c.theme.getD defaultTheme) g (c.filter.getD .publicOrInternal)⟩ := by
  show Task.job (.render (g.value? "input") (g.value? "output") g.filter (g.value? "theme")) = _
  rw [Given.filter_eq h, h, h, h]
  rfl

theorem job_generate : (taskOf "generate" g).job = ⟨c.input, c.output, fun g =>
    SourceModule.write (renderAll (c.theme.getD defaultTheme) g)⟩ := by
  show Task.job (.generate (g.value? "input") (g.value? "output") (g.value? "theme")) = _
  rw [h, h, h]
  rfl

theorem job_inspect : (taskOf "inspect" g).job = ⟨c.input, none, fun g =>
    let report := ClassDiagram.inspect g (c.filter.getD .publicOrInternal)
    if c.json then report.toJson.pretty ++ "\n" else Text.unlines report.lines⟩ := by
  show Task.job (.inspect (g.value? "input") g.filter (g.has "json")) = _
  rw [Given.filter_eq h, Given.has_json h, h]
  rfl

end given

/-- The choices are among those of the subcommand. -/
def Choices.Known (name : String) (c : Choices) : Prop :=
  ∀ n, c.value? n ≠ none → n ∈ (grammarOf name).options.map OptionSpec.long

theorem Choices.known_render {c : Choices} : c.Known "render" ↔ c.json = false := by
  constructor
  · intro h
    by_contra hjson
    have hvalue : c.value? "json" ≠ none := by simp [value?, hjson]
    exact absurd (h "json" hvalue) (by decide)
  · intro hjson n hn
    unfold value? at hn
    split at hn
    case h_5 => simp [hjson] at hn
    case h_6 => exact absurd rfl hn
    all_goals decide

theorem Choices.known_generate {c : Choices} :
    c.Known "generate" ↔ c.filter = none ∧ c.json = false := by
  constructor
  · intro h
    constructor
    · by_contra hfilter
      have hvalue : c.value? "visibility" ≠ none := by simpa [value?] using hfilter
      exact absurd (h "visibility" hvalue) (by decide)
    · by_contra hjson
      have hvalue : c.value? "json" ≠ none := by simp [value?, hjson]
      exact absurd (h "json" hvalue) (by decide)
  · rintro ⟨hfilter, hjson⟩ n hn
    unfold value? at hn
    split at hn
    case h_3 => simp [hfilter] at hn
    case h_5 => simp [hjson] at hn
    case h_6 => exact absurd rfl hn
    all_goals decide

theorem Choices.known_inspect {c : Choices} :
    c.Known "inspect" ↔ c.output = none ∧ c.theme = none := by
  constructor
  · intro h
    constructor
    · by_contra houtput
      exact absurd (h "output" houtput) (by decide)
    · by_contra htheme
      exact absurd (h "theme" htheme) (by decide)
  · rintro ⟨houtput, htheme⟩ n hn
    unfold value? at hn
    split at hn
    case h_2 => exact absurd houtput hn
    case h_4 => exact absurd htheme hn
    case h_6 => exact absurd rfl hn
    all_goals decide

/-- What is asked for is the job of the task that is made of the choices. -/
theorem Asks.exists_choices {name : String} {arguments : List String} {job : Job}
    (h : Asks name arguments job) :
    ∃ c : Choices, c.Written arguments ∧ c.Known name ∧
      ∀ g : Given, (∀ n, g.value? n = c.value? n) → job = (taskOf name g).job := by
  cases h with
  | render hwritten hjson =>
      exact ⟨_, hwritten, Choices.known_render.mpr hjson, fun g h => (job_render h).symm⟩
  | generate hwritten hfilter hjson =>
      exact ⟨_, hwritten, Choices.known_generate.mpr ⟨hfilter, hjson⟩,
        fun g h => (job_generate h).symm⟩
  | inspect hwritten houtput htheme =>
      exact ⟨_, hwritten, Choices.known_inspect.mpr ⟨houtput, htheme⟩,
        fun g h => (job_inspect h).symm⟩

theorem asks_taskOf {name : String} (hname : name ∈ taskNames) {arguments : List String}
    {c : Choices} (hwritten : c.Written arguments) (hknown : c.Known name) {g : Given}
    (h : ∀ n, g.value? n = c.value? n) : Asks name arguments (taskOf name g).job := by
  simp only [taskNames, List.mem_cons, List.not_mem_nil, or_false] at hname
  rcases hname with rfl | rfl | rfl
  · rw [job_render h]
    exact .render hwritten (Choices.known_render.mp hknown)
  · rw [job_generate h]
    obtain ⟨hfilter, hjson⟩ := Choices.known_generate.mp hknown
    exact .generate hwritten hfilter hjson
  · rw [job_inspect h]
    obtain ⟨houtput, htheme⟩ := Choices.known_inspect.mp hknown
    exact .inspect hwritten houtput htheme

theorem taskOptions_grammarOf {name : String} (hname : name ∈ taskNames) :
    ∀ o ∈ (grammarOf name).options, o ∈ taskOptions := by
  simp only [taskNames, List.mem_cons, List.not_mem_nil, or_false] at hname
  rcases hname with rfl | rfl | rfl <;> simp [grammarOf, taskOptions]

theorem plain_grammarOf {name : String} (hname : name ∈ taskNames) : (grammarOf name).Plain := by
  simp only [taskNames, List.mem_cons, List.not_mem_nil, or_false] at hname
  rcases hname with rfl | rfl | rfl
  · exact ⟨rfl, by decide, by decide, by decide, by decide, by decide⟩
  · exact ⟨rfl, by decide, by decide, by decide, by decide, by decide⟩
  · exact ⟨rfl, by decide, by decide, by decide, by decide, by decide⟩

theorem loneLetters_grammarOf {name : String} (hname : name ∈ taskNames) :
    LoneLetters (grammarOf name).options := by
  simp only [taskNames, List.mem_cons, List.not_mem_nil, or_false] at hname
  unfold LoneLetters
  rcases hname with rfl | rfl | rfl
  · decide
  · decide
  · decide

/-- A task is read from options that are all taken up. -/
theorem readTask_eq_ok {name : String} (hname : name ∈ taskNames) {arguments : List String}
    {task : Task} :
    readTask name arguments = .ok task ↔
      ∃ g g' : Given, (∃ found, readArguments (grammarOf name) {} arguments = .ok (g, found)) ∧
        g.settle = .ok g' ∧ task = taskOf name g' := by
  have hhelp : name ≠ "help" := by
    rintro rfl
    exact absurd hname (by decide)
  rw [readTask, if_neg hhelp]
  constructor
  · intro h
    obtain ⟨⟨g, found⟩, hread, hrest⟩ := Except.bind_eq_ok.mp h
    obtain ⟨g', hsettle, hdone⟩ := Except.bind_eq_ok.mp hrest
    cases hdone
    exact ⟨g, g', ⟨found, hread⟩, hsettle, rfl⟩
  · rintro ⟨g, g', ⟨found, hread⟩, hsettle, rfl⟩
    refine Except.bind_eq_ok.mpr ⟨(g, found), hread, ?_⟩
    exact Except.bind_eq_ok.mpr ⟨g', hsettle, rfl⟩

/-- **The task that is read is the one that is asked for.** -/
theorem asks_iff {name : String} (hname : name ∈ taskNames) {arguments : List String} {job : Job} :
    Asks name arguments job ↔ ∃ task, readTask name arguments = .ok task ∧ job = task.job := by
  have hspecs := taskOptions_grammarOf hname
  have hplain := plain_grammarOf hname
  constructor
  · intro h
    obtain ⟨c, hwritten, hknown, hjob⟩ := h.exists_choices
    obtain ⟨options, rest, final, rfl, hends, hreads, hadds⟩ :=
      hwritten.readFrom hspecs (grammarOf name) [] (fun _ _ => rfl) hknown
    obtain ⟨g, hread, hsettle⟩ := readArguments_complete hplain hreads hends (g := {}) rfl
    refine ⟨_, (readTask_eq_ok hname).mpr ⟨g, _, ⟨_, hread⟩, hsettle, rfl⟩, hjob _ fun n => ?_⟩
    have hlookup := hadds.lookup_eq n
    rwa [List.lookup_nil, Option.or_none] at hlookup
  · rintro ⟨task, htask, rfl⟩
    obtain ⟨g, g', ⟨found, hread⟩, hsettle, rfl⟩ := (readTask_eq_ok hname).mp htask
    obtain ⟨options, rest, rfl, hends, hreads⟩ :=
      readArguments_sound (loneLetters_grammarOf hname) (.closed rfl) hread hsettle
    have hfound : found = none := by
      cases hends with
      | subcommand hmem =>
          rw [hplain.subcommands_eq] at hmem
          cases hmem
      | nothing => rfl
      | dashes => rfl
    subst hfound
    obtain ⟨c, hwritten, hadds⟩ := exists_choices hspecs hends hreads
    refine asks_taskOf hname hwritten hadds.known fun n => ?_
    have hlookup := hadds.lookup_eq n
    rwa [List.lookup_nil, Option.or_none] at hlookup

end ClassDiagram.Command
