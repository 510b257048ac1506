import ClassDiagram.Command.Options
import ClassDiagram.Proofs.Command.Files
import ClassDiagram.Proofs.Firsts
import Mathlib.Data.List.TakeWhile

/-! # How options are written

An option stands alone or has a value, and there are several ways to write it
(`OptionSpec.Written`).  Options one after the other, none of them twice, note their values
(`Reads`).  This is what the reader of arguments accepts: what it takes up are such options
(`readArguments_sound`), and where no subcommand can stand it takes up all of them
(`readArguments_complete`). -/

namespace ClassDiagram.Command

/-! ### Written options -/

/-- A value that can have an argument of its own: it does not look like an option. -/
def Loose (value : String) : Prop := value = "-" ∨ value.toList.head? ≠ some '-'

theorem loose_iff {value : String} :
    Loose value ↔ ∀ c letters, value.toList = '-' :: c :: letters → False := by
  have hdash : value = "-" ↔ value.toList = ['-'] := by
    rw [← String.toList_inj]
    exact Iff.rfl
  rw [Loose, hdash]
  cases hvalue : value.toList with
  | nil => simp
  | cons c rest =>
      cases rest with
      | nil => simp [Decidable.em]
      | cons c' rest => simp

/-- The ways to write an option with its value: by the name or by the letter, with the value in the
next argument or in the same one. -/
inductive Spells (name : String) (letter : Option Char) (value : String) : List String → Prop where
  | apart (hloose : Loose value) : Spells name letter value ["--" ++ name, value]
  | attached : Spells name letter value ["--" ++ name ++ "=" ++ value]
  | letterApart {c : Char} (hletter : letter = some c) (hloose : Loose value) :
      Spells name letter value ["-" ++ String.singleton c, value]
  | letterAttached {c : Char} (hletter : letter = some c) :
      Spells name letter value ["-" ++ String.singleton c ++ "=" ++ value]
  | letterGlued {c : Char} (hletter : letter = some c) (hvalue : value ≠ "")
      (hsign : value.toList.head? ≠ some '=') :
      Spells name letter value ["-" ++ String.singleton c ++ value]

/-- The values that an option takes. -/
def ValueRule.Allows : ValueRule → String → Prop
  | .any, _ => True
  | .path, text => text ≠ ""
  | .oneOf words, text => text ≠ "" ∧ text ∈ words

/-- An option as it is written, and the value that is noted for it. -/
inductive OptionSpec.Written (o : OptionSpec) : String → List String → Prop where
  | flag (hvalue : o.value = none) (heffect : o.effect = .none) : o.Written "" ["--" ++ o.long]
  | letter {c : Char} (hvalue : o.value = none) (heffect : o.effect = .none)
      (hletter : o.short = some c) : o.Written "" ["-" ++ String.singleton c]
  | valued {spec : ValueSpec} {text : String} {arguments : List String}
      (hvalue : o.value = some spec) (hallows : spec.rule.Allows text)
      (hspells : Spells o.long o.short text arguments) : o.Written text arguments

/-- Options one after the other add their values to those that are noted.  None is given twice. -/
inductive Reads (specs : List OptionSpec) :
    List (String × String) → List String → List (String × String) → Prop where
  | done (noted : List (String × String)) : Reads specs noted [] noted
  | next {o : OptionSpec} {text : String} {noted final : List (String × String)}
      {arguments rest : List String} (ho : o ∈ specs) (hwritten : o.Written text arguments)
      (hnew : noted.lookup o.long = none)
      (hrest : Reads specs ((o.long, text) :: noted) rest final) :
      Reads specs noted (arguments ++ rest) final

/-! ### Options that are noted -/

namespace Given

variable {g g' : Given} {o : OptionSpec}

theorem has_eq (g : Given) (name : String) : g.has name = (g.options.lookup name).isSome := by
  unfold has
  induction g.options with
  | nil => rfl
  | cons noted options ih =>
      obtain ⟨long, text⟩ := noted
      rw [List.any_cons, List.lookup_cons, ih, Bool.beq_comm]
      cases name == long with
      | true => rfl
      | false => rfl

theorem judge_eq_ok {spec : ValueSpec} {text : String} :
    judge o spec text = .ok () ↔ spec.rule.Allows text := by
  unfold judge ValueRule.Allows
  cases spec.rule with
  | any => exact ⟨fun _ => trivial, fun _ => rfl⟩
  | path => simp
  | oneOf words =>
      by_cases hempty : text = ""
      · simp [hempty]
      · by_cases hmem : text ∈ words
        · simp [hempty, hmem]
        · simp [hempty, hmem]

/-- An option with a value is noted if it is new and takes the value. -/
theorem note_valued {spec : ValueSpec} (hvalue : o.value = some spec) {text : String} :
    g.note o (some text) = .ok g' ↔
      g.options.lookup o.long = none ∧ spec.rule.Allows text ∧
        g' = { g with options := (o.long, text) :: g.options } := by
  rw [← judge_eq_ok (o := o), ← Option.not_isSome_iff_eq_none, ← has_eq]
  simp only [note, hvalue]
  split
  · rename_i hhas
    simp [hhas]
  · rename_i hhas
    rw [Except.bind_eq_ok]
    constructor
    · rintro ⟨_, hjudge, hnoted⟩
      cases hnoted
      exact ⟨hhas, hjudge, rfl⟩
    · rintro ⟨-, hjudge, rfl⟩
      exact ⟨(), hjudge, rfl⟩

/-- An option without a value is noted if it is new. -/
theorem note_flag (hvalue : o.value = none) {value : Option String} :
    g.note o value = .ok g' ↔
      g.options.lookup o.long = none ∧
        g' = { g with options := (o.long, "") :: g.options } := by
  rw [← Option.not_isSome_iff_eq_none, ← has_eq]
  simp only [note, hvalue]
  split
  · rename_i hhas
    simp [hhas]
  · rename_i hhas
    simp [hhas, eq_comm]

theorem note_missing (hvalue : o.value.isSome = true) : g.note o none ≠ .ok g' := by
  obtain ⟨spec, hspec⟩ := Option.isSome_iff_exists.mp hvalue
  simp only [note, hspec]
  exact nofun

theorem settle_of_pending {p : Pending} (h : g.pending = some p) :
    g.settle = { g with pending := none }.note p.option p.value := by
  rw [settle, h]

theorem settle_of_not_pending (h : g.pending = none) : g.settle = .ok g := by
  rw [settle, h]

/-- An option with its value is settled if it is new and takes the value. -/
theorem settle_supplied {spec : ValueSpec} (hvalue : o.value = some spec) {text : String}
    (hnew : g.options.lookup o.long = none) (hallows : spec.rule.Allows text) :
    ({ g with pending := some ⟨o, some text⟩ } : Given).settle =
      .ok { options := (o.long, text) :: g.options } := by
  rw [settle_of_pending rfl]
  exact (note_valued hvalue).mpr ⟨hnew, hallows, rfl⟩

/-- Naming an option whose value is still to come makes it pending. -/
theorem name_valued (hvalue : o.value.isSome = true) :
    g.name o none = .ok g' ↔
      ∃ settled, g.settle = .ok settled ∧ g' = { settled with pending := some ⟨o, none⟩ } := by
  obtain ⟨spec, hspec⟩ := Option.isSome_iff_exists.mp hvalue
  simp only [name, hspec, Except.bind_eq_ok]
  refine exists_congr fun settled => and_congr_right' ⟨?_, ?_⟩
  · intro h
    cases h
    rfl
  · rintro rfl
    rfl

/-- Naming any other option notes it, unless it has an effect of its own. -/
theorem name_noted {attached : Option String} (h : o.value = none ∨ attached.isSome = true) :
    g.name o attached = .ok g' ↔
      ∃ settled, g.settle = .ok settled ∧ o.effect = .none ∧ settled.note o attached = .ok g' := by
  simp only [name, Except.bind_eq_ok]
  refine exists_congr fun settled => and_congr_right' ?_
  split
  · rename_i hvalue
    rw [hvalue] at h
    simp at h
  · cases heffect : o.effect with
    | version => exact ⟨nofun, nofun⟩
    | help => exact ⟨nofun, nofun⟩
    | none => simp

end Given

/-! ### Arguments that are read -/

/-- What is longer than its part before the first equals sign goes on with the sign. -/
theorem eq_append_of_takeWhile_lt {cs : List Char}
    (h : (cs.takeWhile (· != '=')).length < cs.length) :
    cs = cs.takeWhile (· != '=') ++ '=' :: cs.drop ((cs.takeWhile (· != '=')).length + 1) := by
  induction cs with
  | nil => cases h
  | cons c cs ih =>
      by_cases hc : c = '='
      · rw [List.takeWhile_cons_of_neg (by simp [hc]), hc]
        rfl
      · rw [List.takeWhile_cons_of_pos (by simp [hc])] at h ⊢
        rw [List.length_cons, List.length_cons] at h
        exact congrArg (c :: ·) (ih (by omega))

section sound
variable {specs : List OptionSpec} {g g' : Given} {o : OptionSpec}

/-- What has been read of an option that is not noted yet: nothing, an option that waits for its
value, or an option with its value. -/
inductive Given.Opened (specs : List OptionSpec) (g : Given) : List String → Prop where
  | closed (hpending : g.pending = none) : g.Opened specs []
  | waiting {o : OptionSpec} {before : List String} (hpending : g.pending = some ⟨o, none⟩)
      (ho : o ∈ specs) (hvalue : o.value.isSome = true)
      (hspells : ∀ value, Loose value → Spells o.long o.short value (before ++ [value])) :
      g.Opened specs before
  | supplied {o : OptionSpec} {text : String} {before : List String}
      (hpending : g.pending = some ⟨o, some text⟩) (ho : o ∈ specs) (hvalue : o.value.isSome = true)
      (hspells : Spells o.long o.short text before) : g.Opened specs before

/-- The pending option is the first one that is read. -/
theorem Given.Opened.settle {before : List String} (hopened : g.Opened specs before)
    (h : g.settle = .ok g') :
    g'.pending = none ∧ ∀ {arguments final}, Reads specs g'.options arguments final →
      Reads specs g.options (before ++ arguments) final := by
  cases hopened with
  | closed hpending =>
      rw [Given.settle_of_not_pending hpending] at h
      cases h
      exact ⟨hpending, id⟩
  | waiting hpending ho hvalue hspells =>
      rw [Given.settle_of_pending hpending] at h
      exact absurd h (Given.note_missing hvalue)
  | supplied hpending ho hvalue hspells =>
      obtain ⟨spec, hspec⟩ := Option.isSome_iff_exists.mp hvalue
      rw [Given.settle_of_pending hpending] at h
      obtain ⟨hnew, hallows, rfl⟩ := (Given.note_valued hspec).mp h
      exact ⟨rfl, .next ho (.valued hspec hallows hspells) hnew⟩

/-- An option that waits for its value is the only one that can take the next argument. -/
theorem Given.Opened.supply {before : List String} (hopened : g.Opened specs before)
    (hawaits : g.awaitsValue = true) {value : String} (hloose : Loose value) :
    (g.supply value).Opened specs (before ++ [value]) := by
  cases hopened with
  | closed hpending =>
      rw [Given.awaitsValue, hpending] at hawaits
      cases hawaits
  | waiting hpending ho hvalue hspells =>
      rename_i o
      have hpending' : (g.supply value).pending = some ⟨o, some value⟩ := by
        rw [Given.supply, hpending]
        rfl
      exact .supplied hpending' ho hvalue (hspells value hloose)
  | supplied hpending ho hvalue hspells =>
      rw [Given.awaitsValue, hpending] at hawaits
      cases hawaits

/-- What is read after one argument that names an option goes on from what was read before. -/
def Continues (specs : List OptionSpec) (g g' : Given) (before : List String) (argument : String) :
    Prop :=
  ∃ after, g'.Opened specs after ∧ ∀ {arguments final},
    Reads specs g'.options (after ++ arguments) final →
      Reads specs g.options (before ++ argument :: arguments) final

/-- An argument that names an option whose value is to come. -/
theorem Given.Opened.name_waiting {before : List String} (hopened : g.Opened specs before)
    (ho : o ∈ specs) (hvalue : o.value.isSome = true) {argument : String}
    (hspells : ∀ value, Loose value → Spells o.long o.short value [argument, value])
    (h : g.name o none = .ok g') : Continues specs g g' before argument := by
  obtain ⟨settled, hsettle, rfl⟩ := (Given.name_valued hvalue).mp h
  exact ⟨[argument], .waiting rfl ho hvalue hspells, (hopened.settle hsettle).2⟩

/-- An argument that names an option together with its value. -/
theorem Given.Opened.name_valued {before : List String} (hopened : g.Opened specs before)
    (ho : o ∈ specs) (hvalue : o.value.isSome = true) {argument text : String}
    (hspells : Spells o.long o.short text [argument])
    (h : g.name o (some text) = .ok g') : Continues specs g g' before argument := by
  obtain ⟨spec, hspec⟩ := Option.isSome_iff_exists.mp hvalue
  obtain ⟨settled, hsettle, -, hnote⟩ := (Given.name_noted (.inr rfl)).mp h
  obtain ⟨hnew, hallows, rfl⟩ := (Given.note_valued hspec).mp hnote
  obtain ⟨hpending, hbefore⟩ := hopened.settle hsettle
  have hwritten : o.Written text [argument] := .valued hspec hallows hspells
  exact ⟨[], .closed hpending, fun hrest => hbefore (.next ho hwritten hnew hrest)⟩

/-- An argument that names an option without a value. -/
theorem Given.Opened.name_flag {before : List String} (hopened : g.Opened specs before)
    (ho : o ∈ specs) (hvalue : o.value = none) {argument : String}
    (hwritten : o.effect = .none → o.Written "" [argument])
    (h : g.name o none = .ok g') :
    Continues specs g g' before argument ∧ o.effect = .none ∧ g'.pending = none ∧
      (g'.options.lookup o.long).isSome = true := by
  obtain ⟨settled, hsettle, heffect, hnote⟩ := (Given.name_noted (.inl hvalue)).mp h
  obtain ⟨hnew, rfl⟩ := (Given.note_flag hvalue).mp hnote
  obtain ⟨hpending, hbefore⟩ := hopened.settle hsettle
  refine ⟨⟨[], .closed hpending, fun hrest => hbefore ?_⟩, heffect, hpending, ?_⟩
  · exact .next ho (hwritten heffect) hnew hrest
  · rw [List.lookup_cons_self]
    rfl

theorem ofList_dashes (cs : List Char) :
    String.ofList ('-' :: '-' :: cs) = "--" ++ String.ofList cs := by
  rw [← String.toList_inj]
  simp

theorem ofList_dash (c : Char) (cs : List Char) :
    String.ofList ('-' :: c :: cs) = "-" ++ String.singleton c ++ String.ofList cs := by
  rw [← String.toList_inj]
  simp

/-- A long option that is read is one of the options. -/
theorem readLong_continues {before : List String} (hopened : g.Opened specs before)
    {long : List Char} (h : readLong specs g long = .ok g') :
    Continues specs g g' before (String.ofList ('-' :: '-' :: long)) := by
  have hfound : ∀ {o}, specs.find? (·.long == String.ofList (long.takeWhile (· != '='))) =
      some o → o ∈ specs ∧ o.long = String.ofList (long.takeWhile (· != '=')) := by
    intro o hfind
    exact ⟨List.mem_of_find?_eq_some hfind, by simpa using List.find?_some hfind⟩
  simp only [readLong] at h
  split at h
  · cases h
  · rename_i o value hfind hattached
    obtain ⟨ho, hlong⟩ := hfound hfind
    split at hattached
    case isFalse => cases hattached
    case isTrue hlength =>
        split at h
        · cases h
        · rename_i hflag
          have hvalue : o.value.isSome = true :=
            Option.isSome_iff_ne_none.mpr (mt Option.isNone_iff_eq_none.mpr hflag)
          have hargument : String.ofList ('-' :: '-' :: long) = "--" ++ o.long ++ "=" ++ value := by
            cases hattached
            rw [hlong, ← String.toList_inj]
            simpa using eq_append_of_takeWhile_lt hlength
          rw [hargument]
          exact hopened.name_valued ho hvalue .attached h
  · rename_i o hfind hattached
    obtain ⟨ho, hlong⟩ := hfound hfind
    split at hattached
    case isTrue => cases hattached
    case isFalse hlength =>
        have hbegins : long.takeWhile (· != '=') <+: long := List.takeWhile_prefix _
        have hwhole := hbegins.eq_of_length_le (by omega)
        rw [ofList_dashes, ← hwhole, ← hlong]
        cases hvalue : o.value with
        | none => exact (hopened.name_flag ho hvalue (.flag hvalue) h).1
        | some spec =>
            have hsome : o.value.isSome = true := by rw [hvalue]; rfl
            exact hopened.name_waiting ho hsome (fun _ => .apart) h

/-- Where an option that stands alone can be written with a letter, no other option that is noted
can. -/
def LoneLetters (specs : List OptionSpec) : Prop :=
  ∀ o ∈ specs, o.short.isSome = true → o.value = none → o.effect = .none →
    ∀ o' ∈ specs, o'.short.isSome = true →
      o'.value = none ∧ (o'.effect = .none → o'.long = o.long)

/-- An argument of letters that is read is one of the options. -/
theorem readShort_continues (hletters : LoneLetters specs) {before : List String}
    (hopened : g.Opened specs before) {c : Char} {letters : List Char}
    (h : readShort specs g (c :: letters) = .ok g') :
    Continues specs g g' before (String.ofList ('-' :: c :: letters)) := by
  have hfound : ∀ {c o}, specs.find? (·.short == some c) = some o →
      o ∈ specs ∧ o.short = some c := by
    intro c o hfind
    exact ⟨List.mem_of_find?_eq_some hfind, by simpa using List.find?_some hfind⟩
  rw [readShort] at h
  split at h
  · cases h
  · rename_i o hfind
    obtain ⟨ho, hshort⟩ := hfound hfind
    have hargument : String.ofList ['-', c] = "-" ++ String.singleton c := by
      rw [← String.toList_inj]
      simp
    split at h
    · rename_i hvalue
      rw [hargument]
      exact hopened.name_waiting ho (by rw [hvalue]; rfl) (fun _ => .letterApart hshort) h
    · rename_i value hvalue
      have hwhole : String.ofList ('-' :: c :: '=' :: value) =
          "-" ++ String.singleton c ++ "=" ++ String.ofList value := by
        rw [← String.toList_inj]
        simp
      rw [hwhole]
      exact hopened.name_valued ho (by rw [hvalue]; rfl) (.letterAttached hshort) h
    · rename_i hvalue hne hsign
      rw [ofList_dash]
      refine hopened.name_valued ho (by rw [hvalue]; rfl) (.letterGlued hshort ?_ ?_) h
      · intro hempty
        exact hne (String.ofList_eq_empty_iff.mp hempty)
      · rw [String.toList_ofList]
        intro hhead
        obtain ⟨value, rfl⟩ := List.head?_eq_some_iff.mp hhead
        exact hsign value rfl
    · rename_i hvalue
      obtain ⟨g₁, hname, hrest⟩ := Except.bind_eq_ok.mp h
      have hwritten : o.effect = .none → o.Written "" ["-" ++ String.singleton c] :=
        fun heffect => .letter hvalue heffect hshort
      obtain ⟨hcontinues, heffect, hpending, hhas⟩ := hopened.name_flag ho hvalue hwritten hname
      unfold readShort at hrest
      split at hrest
      · cases hrest
        rwa [hargument]
      · -- another letter could only repeat this one
        split at hrest
        · cases hrest
        · rename_i o' hfind'
          obtain ⟨ho', hshort'⟩ := hfound hfind'
          have hsome : o.short.isSome = true := by rw [hshort]; rfl
          have hsome' : o'.short.isSome = true := by rw [hshort']; rfl
          obtain ⟨hvalue', hlong⟩ := hletters o ho hsome hvalue heffect o' ho' hsome'
          simp only [hvalue'] at hrest
          obtain ⟨g₂, hname', -⟩ := Except.bind_eq_ok.mp hrest
          obtain ⟨settled, hsettle, heffect', hnote⟩ := (Given.name_noted (.inl hvalue')).mp hname'
          rw [Given.settle_of_not_pending hpending] at hsettle
          cases hsettle
          rw [← hlong heffect', ((Given.note_flag hvalue').mp hnote).1] at hhas
          cases hhas

/-- What is left of the arguments when their reader stops: a subcommand with its own arguments,
nothing, or a double dash. -/
inductive Ends (grammar : Grammar) : Option (String × List String) → List String → Prop where
  | subcommand {name : String} {rest : List String} (hname : name ∈ grammar.subcommands) :
      Ends grammar (some (name, rest)) (name :: rest)
  | nothing : Ends grammar none []
  | dashes : Ends grammar none ["--"]

/-- **The reader takes up options.**  Up to where it stops, the arguments are options one after the
other, the first of which may have been begun before. -/
theorem readArguments_sound {grammar : Grammar} (hletters : LoneLetters grammar.options)
    {arguments before : List String} {g g' settled : Given} {found : Option (String × List String)}
    (hopened : g.Opened grammar.options before)
    (h : readArguments grammar g arguments = .ok (g', found)) (hsettle : g'.settle = .ok settled) :
    ∃ options rest, arguments = options ++ rest ∧ Ends grammar found rest ∧
      Reads grammar.options g.options (before ++ options) settled.options := by
  -- the induction is on the arguments; what was begun before them is the invariant that carries it
  have hstop : ∀ {before} {g : Given}, g.Opened grammar.options before → g.settle = .ok settled →
      Reads grammar.options g.options (before ++ []) settled.options :=
    fun hopened hsettle => (hopened.settle hsettle).2 (.done _)
  induction arguments generalizing g before with
  | nil =>
      cases h
      exact ⟨[], [], rfl, .nothing, hstop hopened hsettle⟩
  | cons argument arguments ih =>
      have hnamed : ∀ {g₁ : Given}, Continues grammar.options g g₁ before argument →
          readArguments grammar g₁ arguments = .ok (g', found) →
          ∃ options rest, argument :: arguments = options ++ rest ∧ Ends grammar found rest ∧
            Reads grammar.options g.options (before ++ options) settled.options := by
        rintro g₁ ⟨after, hopened', hcontinues⟩ hrest
        obtain ⟨options, rest, rfl, hends, hreads⟩ := ih hopened' hrest
        exact ⟨argument :: options, rest, rfl, hends, hcontinues hreads⟩
      unfold readArguments at h
      split at h
      · rename_i hsubcommand
        cases h
        have hmem : argument ∈ grammar.subcommands := by simpa using hsubcommand.1
        exact ⟨[], _, rfl, .subcommand hmem, hstop hopened hsettle⟩
      · split at h
        · rename_i hdashes
          have hargument : argument = "--" := by
            rw [← String.toList_inj, hdashes]
            rfl
          split at h
          · cases h
            rw [hargument]
            exact ⟨[], _, rfl, .dashes, hstop hopened hsettle⟩
          · cases h
        · rename_i long _ hlong
          obtain ⟨g₁, hread, hrest⟩ := Except.bind_eq_ok.mp h
          have hcontinues := readLong_continues hopened hread
          rw [← hlong, String.ofList_toList] at hcontinues
          exact hnamed hcontinues hrest
        · rename_i c letters _ _ hshort
          obtain ⟨g₁, hread, hrest⟩ := Except.bind_eq_ok.mp h
          have hcontinues := readShort_continues hletters hopened hread
          rw [← hshort, String.ofList_toList] at hcontinues
          exact hnamed hcontinues hrest
        · rename_i hdashes hlong hshort
          split at h
          · rename_i hawaits
            have hloose : Loose argument := loose_iff.mpr hshort
            obtain ⟨options, rest, rfl, hends, hreads⟩ := ih (hopened.supply hawaits hloose) h
            rw [List.append_assoc] at hreads
            exact ⟨argument :: options, rest, rfl, hends, hreads⟩
          · cases h

end sound

/-! ### Options that are taken up -/

/-- A grammar for the arguments of a subcommand: its options are told apart by their names and by
their letters, and no other subcommand follows. -/
structure Grammar.Plain (grammar : Grammar) : Prop where
  subcommands_eq : grammar.subcommands = []
  nodup_long : (grammar.options.map OptionSpec.long).Nodup
  nodup_short : (grammar.options.filterMap OptionSpec.short).Nodup
  long_ne : ∀ o ∈ grammar.options, o.long ≠ "" ∧ '=' ∉ o.long.toList
  short_ne : ∀ o ∈ grammar.options, o.short ≠ some '-'
  effect_eq : ∀ o ∈ grammar.options, o.value.isSome = true → o.effect = .none

/-- Where letters differ, an option is found by its letter. -/
theorem find?_short {specs : List OptionSpec} (hnodup : (specs.filterMap OptionSpec.short).Nodup)
    {o : OptionSpec} (ho : o ∈ specs) {c : Char} (hshort : o.short = some c) :
    specs.find? (·.short == some c) = some o := by
  induction specs with
  | nil => cases ho
  | cons o' specs ih =>
      rcases List.mem_cons.mp ho with rfl | ho
      · rw [List.find?_cons_of_pos (by simp [hshort])]
      · cases hshort' : o'.short with
        | none =>
            rw [List.filterMap_cons_none hshort'] at hnodup
            rw [List.find?_cons_of_neg (by simp [hshort']), ih hnodup ho]
        | some c' =>
            rw [List.filterMap_cons_some hshort', List.nodup_cons] at hnodup
            have hne : c' ≠ c := by
              rintro rfl
              exact hnodup.1 (List.mem_filterMap.mpr ⟨o, ho, hshort⟩)
            rw [List.find?_cons_of_neg (by simp [hshort', hne]), ih hnodup.2 ho]

section complete
variable {grammar : Grammar} (hplain : grammar.Plain) {g : Given} {o : OptionSpec}
include hplain

theorem readArguments_dashes : readArguments grammar g ["--"] = .ok (g, none) := by
  unfold readArguments
  simp only [hplain.subcommands_eq]
  rfl

theorem readArguments_long {long : String} (hlong : long ≠ "") (rest : List String) :
    readArguments grammar g (("--" ++ long) :: rest) =
      readLong grammar.options g long.toList >>= fun g => readArguments grammar g rest := by
  have hargument : ("--" ++ long).toList = '-' :: '-' :: long.toList := by simp
  obtain ⟨c, cs, hcs⟩ := List.exists_cons_of_ne_nil (mt String.toList_eq_nil_iff.mp hlong)
  conv_lhs => unfold readArguments
  simp only [hplain.subcommands_eq, hargument, hcs]
  rfl

theorem readArguments_short {c : Char} (hc : c ≠ '-') (letters : String) (rest : List String) :
    readArguments grammar g (("-" ++ String.singleton c ++ letters) :: rest) =
      readShort grammar.options g (c :: letters.toList) >>= fun g =>
        readArguments grammar g rest := by
  have hargument : ("-" ++ String.singleton c ++ letters).toList =
      '-' :: c :: letters.toList := by simp
  conv_lhs => unfold readArguments
  simp only [hplain.subcommands_eq, hargument, List.contains_nil, Bool.false_eq_true, false_and,
    if_false]
  split
  · rename_i heq
    exact absurd (List.cons.inj (List.cons.inj heq).2).1 hc
  · rename_i heq
    exact absurd (List.cons.inj (List.cons.inj heq).2).1 hc
  · rename_i heq
    rw [(List.cons.inj heq).2]
  · rename_i hshort
    exact absurd rfl (hshort _ _)

theorem readArguments_value {value : String} (hloose : Loose value) (hawaits : g.awaitsValue = true)
    (rest : List String) :
    readArguments grammar g (value :: rest) = readArguments grammar (g.supply value) rest := by
  conv_lhs => unfold readArguments
  simp only [hplain.subcommands_eq, List.contains_nil, Bool.false_eq_true, false_and, if_false]
  split
  · rename_i heq
    exact absurd heq (loose_iff.mp hloose _ _)
  · rename_i heq
    exact absurd heq (loose_iff.mp hloose _ _)
  · rename_i heq
    exact absurd heq (loose_iff.mp hloose _ _)
  · rw [if_pos hawaits]

theorem readLong_name (ho : o ∈ grammar.options) :
    readLong grammar.options g o.long.toList = g.name o none := by
  have hwhole : o.long.toList.takeWhile (· != '=') = o.long.toList := by
    rw [List.takeWhile_eq_self_iff]
    intro c hc
    exact bne_iff_ne.mpr fun heq => (hplain.long_ne o ho).2 (heq ▸ hc)
  simp only [readLong, hwhole, Nat.lt_irrefl, if_false, String.ofList_toList,
    find?_of_nodup hplain.nodup_long ho]

theorem readLong_attached (ho : o ∈ grammar.options) (hvalue : o.value.isSome = true)
    (value : String) :
    readLong grammar.options g (o.long.toList ++ '=' :: value.toList) = g.name o (some value) := by
  have hname : (o.long.toList ++ '=' :: value.toList).takeWhile (· != '=') = o.long.toList := by
    rw [List.takeWhile_append_of_pos]
    · simp
    · intro c hc
      exact bne_iff_ne.mpr fun heq => (hplain.long_ne o ho).2 (heq ▸ hc)
  have hflag : o.value.isNone = false := by
    cases hnone : o.value <;> simp_all
  simp only [readLong, hname, String.ofList_toList, find?_of_nodup hplain.nodup_long ho]
  simp [hflag]

section letters
variable {c : Char} (ho : o ∈ grammar.options) (hshort : o.short = some c)
include ho hshort

theorem readShort_name : readShort grammar.options g [c] = g.name o none := by
  rw [readShort, find?_short hplain.nodup_short ho hshort]
  cases hvalue : o.value with
  | some spec => simp only [hvalue]
  | none =>
      simp only [hvalue]
      cases g.name o none with
      | ok g' => rfl
      | error halt => rfl

theorem readShort_attached (hvalue : o.value.isSome = true) (value : String) :
    readShort grammar.options g (c :: '=' :: value.toList) = g.name o (some value) := by
  obtain ⟨spec, hspec⟩ := Option.isSome_iff_exists.mp hvalue
  rw [readShort, find?_short hplain.nodup_short ho hshort]
  simp only [hspec, String.ofList_toList]

theorem readShort_glued (hvalue : o.value.isSome = true) {value : String} (hne : value ≠ "")
    (hsign : value.toList.head? ≠ some '=') :
    readShort grammar.options g (c :: value.toList) = g.name o (some value) := by
  obtain ⟨spec, hspec⟩ := Option.isSome_iff_exists.mp hvalue
  rw [readShort, find?_short hplain.nodup_short ho hshort]
  simp only
  split
  · rename_i hempty
    exact absurd (String.toList_eq_nil_iff.mp hempty) hne
  · rename_i hequals
    rw [hequals] at hsign
    exact absurd rfl hsign
  · rw [String.ofList_toList]
  · rename_i hnone
    rw [hspec] at hnone
    cases hnone

end letters

/-- A written option is taken up: what comes next is read with its value noted, or to be noted. -/
theorem readArguments_written (ho : o ∈ grammar.options) {text : String} {arguments : List String}
    (hwritten : o.Written text arguments) {noted : List (String × String)}
    (hsettle : g.settle = .ok { options := noted }) (hnew : noted.lookup o.long = none) :
    ∃ g', g'.settle = .ok { options := (o.long, text) :: noted } ∧
      ∀ rest, readArguments grammar g (arguments ++ rest) = readArguments grammar g' rest := by
  have hlong := (hplain.long_ne o ho).1
  have hshort : ∀ {c}, o.short = some c → c ≠ '-' :=
    fun hletter hc => hplain.short_ne o ho (hc ▸ hletter)
  have hflag : o.value = none → o.effect = .none →
      g.name o none = .ok { options := (o.long, "") :: noted } := fun hvalue heffect =>
    (Given.name_noted (.inl hvalue)).mpr
      ⟨_, hsettle, heffect, (Given.note_flag hvalue).mpr ⟨hnew, rfl⟩⟩
  cases hwritten with
  | flag hvalue heffect =>
      refine ⟨{ options := (o.long, "") :: noted }, rfl, fun rest => ?_⟩
      rw [List.singleton_append, readArguments_long hplain hlong, readLong_name hplain ho,
        hflag hvalue heffect]
      rfl
  | @letter c hvalue heffect hletter =>
      refine ⟨{ options := (o.long, "") :: noted }, rfl, fun rest => ?_⟩
      have hread := readArguments_short (g := g) hplain (hshort hletter) "" rest
      rw [String.append_empty] at hread
      rw [List.singleton_append, hread]
      show readShort grammar.options g [c] >>= _ = _
      rw [readShort_name hplain ho hletter, hflag hvalue heffect]
      rfl
  | @valued spec _ _ hvalue hallows hspells =>
      have hsome : o.value.isSome = true := by rw [hvalue]; rfl
      have hattached : g.name o (some text) = .ok { options := (o.long, text) :: noted } :=
        (Given.name_noted (.inr rfl)).mpr ⟨_, hsettle, hplain.effect_eq o ho hsome,
          (Given.note_valued hvalue).mpr ⟨hnew, hallows, rfl⟩⟩
      have hwaiting : g.name o none = .ok { options := noted, pending := some ⟨o, none⟩ } :=
        (Given.name_valued hsome).mpr ⟨_, hsettle, rfl⟩
      have hsupplied : ({ options := noted, pending := some ⟨o, some text⟩ } : Given).settle =
          .ok { options := (o.long, text) :: noted } :=
        Given.settle_supplied (g := { options := noted }) hvalue hnew hallows
      cases hspells with
      | apart hloose =>
          refine ⟨_, hsupplied, fun rest => ?_⟩
          show readArguments grammar g (("--" ++ o.long) :: text :: rest) = _
          rw [readArguments_long hplain hlong, readLong_name hplain ho, hwaiting]
          exact readArguments_value hplain hloose rfl rest
      | attached =>
          refine ⟨{ options := (o.long, text) :: noted }, rfl, fun rest => ?_⟩
          have hne : o.long ++ "=" ++ text ≠ "" := by simp
          have hargument : "--" ++ o.long ++ "=" ++ text = "--" ++ (o.long ++ "=" ++ text) := by
            rw [String.append_assoc, String.append_assoc, String.append_assoc]
          rw [List.singleton_append, hargument, readArguments_long hplain hne]
          have hchars : (o.long ++ "=" ++ text).toList = o.long.toList ++ '=' :: text.toList := by
            simp
          rw [hchars, readLong_attached hplain ho hsome, hattached]
          rfl
      | letterApart hletter hloose =>
          refine ⟨_, hsupplied, fun rest => ?_⟩
          have hread := readArguments_short (g := g) hplain (hshort hletter) "" (text :: rest)
          rw [String.append_empty] at hread
          show readArguments grammar g (_ :: text :: rest) = _
          rw [hread]
          show readShort grammar.options g [_] >>= _ = _
          rw [readShort_name hplain ho hletter, hwaiting]
          exact readArguments_value hplain hloose rfl rest
      | letterAttached hletter =>
          refine ⟨{ options := (o.long, text) :: noted }, rfl, fun rest => ?_⟩
          rw [List.singleton_append, String.append_assoc,
            readArguments_short hplain (hshort hletter)]
          have hchars : ("=" ++ text).toList = '=' :: text.toList := by simp
          rw [hchars, readShort_attached hplain ho hletter hsome, hattached]
          rfl
      | letterGlued hletter hne hsign =>
          refine ⟨{ options := (o.long, text) :: noted }, rfl, fun rest => ?_⟩
          rw [List.singleton_append, readArguments_short hplain (hshort hletter),
            readShort_glued hplain ho hletter hsome hne hsign, hattached]
          rfl

/-- **All options are taken up** where no subcommand can follow. -/
theorem readArguments_complete {noted final : List (String × String)} {options rest : List String}
    (hreads : Reads grammar.options noted options final) (hends : Ends grammar none rest)
    (hsettle : g.settle = .ok { options := noted }) :
    ∃ g', readArguments grammar g (options ++ rest) = .ok (g', none) ∧
      g'.settle = .ok { options := final } := by
  induction hreads generalizing g with
  | done noted =>
      refine ⟨g, ?_, hsettle⟩
      cases hends with
      | nothing => rfl
      | dashes => exact readArguments_dashes hplain
  | next ho hwritten hnew _ ih =>
      obtain ⟨g', hsettle', hread⟩ := readArguments_written hplain ho hwritten hsettle hnew
      rw [List.append_assoc, hread]
      exact ih hsettle'

end complete

end ClassDiagram.Command
