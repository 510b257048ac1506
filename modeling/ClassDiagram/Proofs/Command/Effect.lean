import ClassDiagram.Proofs.Command.TaskArguments
import ClassDiagram.Proofs.Symbol.Validation

/-! # What a run leaves behind

The effect of a run is its exit status, its standard output and the files.  It is decided by the job
that the subcommand and its arguments ask for (`Asks`): neither the options before the subcommand
nor the environment, both of which say what is told on the way, have a part in it (`effect_run`).

A run does all or nothing.  If its input is not the encoding of a text (`Holds`) or the text is not
that of a graph, nothing is written; otherwise the result of the job is written whole to one place,
or to none if this place cannot be reached (`effect_all_or_nothing`). -/

namespace ClassDiagram.Command

/-- What a run leaves behind, apart from what it tells: the exit status, the standard output and the
files. -/
def Outcome.effect (o : Outcome) : Nat × String × Files := (o.exit, o.output, o.files)

/-- The bytes of an input: those of the file where its path leads, or of the standard input if it is
absent or a dash. -/
inductive Holds (world : World) : Option String → List UInt8 → Prop where
  | absent : Holds world none world.input
  | dash : Holds world (some "-") world.input
  | file {path : String} {content : List UInt8} (hpath : path ≠ "-")
      (hreaches : world.files.Reaches (Path.ofString path))
      (hcontent : world.files.get? ((Path.ofString path).place world.files.home) = some content) :
      Holds world (some path) content

/-! ### Input -/

section holds
variable {world : World} {content : List UInt8}

theorem holds_standard {input : Option String} (h : input = none ∨ input = some "-") :
    Holds world input content ↔ world.input = content := by
  constructor
  · intro hholds
    cases hholds with
    | absent => rfl
    | dash => rfl
    | file hpath =>
        rcases h with h | h
        · cases h
        · exact absurd (Option.some.inj h) hpath
  · rintro rfl
    rcases h with rfl | rfl
    · exact .absent
    · exact .dash

theorem holds_file {path : String} (hpath : path ≠ "-") :
    Holds world (some path) content ↔ world.files.Reaches (Path.ofString path) ∧
      world.files.get? ((Path.ofString path).place world.files.home) = some content := by
  constructor
  · intro h
    cases h with
    | dash => exact absurd rfl hpath
    | file _ hreaches hcontent => exact ⟨hreaches, hcontent⟩
  · rintro ⟨hreaches, hcontent⟩
    exact .file hpath hreaches hcontent

end holds

theorem namedPath?_file {path : String} (hpath : path ≠ "-") :
    namedPath? (some path) = some path := by
  rw [namedPath?, Option.filter_some, if_pos (by simpa using hpath)]

/-- An option names the standard stream or a file. -/
theorem namedPath?_cases (option : Option String) :
    ((option = none ∨ option = some "-") ∧ namedPath? option = none) ∨
      ∃ path, option = some path ∧ path ≠ "-" ∧ namedPath? option = some path := by
  cases option with
  | none => exact .inl ⟨.inl rfl, rfl⟩
  | some path =>
      by_cases hpath : path = "-"
      · subst hpath
        exact .inl ⟨.inr rfl, rfl⟩
      · exact .inr ⟨path, rfl, hpath, namedPath?_file hpath⟩

theorem asText_eq_ok {content : List UInt8} {text : String} :
    Files.asText content = .ok text ↔ content = Text.bytes text := by
  rw [← Text.decode_eq_ok_iff]
  unfold Files.asText
  cases hdecode : Text.decode content with
  | ok text' => exact ⟨fun h => by cases h; rfl, fun h => by cases h; rfl⟩
  | error good => exact ⟨nofun, nofun⟩

theorem readText_eq_ok {fs : Files} {p : Path} {text : String} :
    fs.readText p = .ok text ↔ fs.read p = .ok (Text.bytes text) := by
  unfold Files.readText
  rw [Except.bind_eq_ok]
  constructor
  · rintro ⟨content, hread, htext⟩
    rw [hread, asText_eq_ok.mp htext]
  · intro hread
    exact ⟨_, hread, asText_eq_ok.mpr rfl⟩

/-- What is read of an input is the text that it encodes. -/
theorem readInput_eq_ok {world : World} {input : Option String} {text : String} :
    readInput world input = .ok text ↔ Holds world input (Text.bytes text) := by
  rcases namedPath?_cases input with ⟨hstandard, hnone⟩ | ⟨path, rfl, hpath, hnamed⟩
  · rw [holds_standard hstandard, ← asText_eq_ok, readInput, hnone]
    cases Files.asText world.input with
    | ok text' => simp only [Except.ok.injEq]
    | error e => exact ⟨nofun, nofun⟩
  · rw [holds_file hpath, ← Files.read_eq_ok, ← readText_eq_ok, readInput, hnamed]
    simp only
    cases world.files.readText (Path.ofString path) with
    | ok text' => simp only [Except.ok.injEq]
    | error e => exact ⟨nofun, nofun⟩

theorem loadInput_eq_ok {text : String} {g : Graph} :
    loadInput text = .ok g ↔ Graph.ofText text = .ok g := by
  unfold loadInput
  cases Graph.ofText text with
  | ok g' => simp only [Except.ok.injEq]
  | error e => exact ⟨nofun, nofun⟩

/-! ### Execution -/

section execution
variable {task : Task} {world : World}

/-- A task that succeeds has read and loaded its input. -/
theorem Task.execute_eq_ok {written : Written} (h : task.execute world = .ok written) :
    ∃ text g, Holds world task.input (Text.bytes text) ∧ Graph.ofText text = .ok g ∧
      writeOutput world.files task.output (task.result g) = .ok written := by
  obtain ⟨text, hread, hrest⟩ := Except.bind_eq_ok.mp h
  obtain ⟨g, hload, hwrite⟩ := Except.bind_eq_ok.mp hrest
  exact ⟨text, g, readInput_eq_ok.mp hread, loadInput_eq_ok.mp hload, hwrite⟩

/-- Once its input is loaded, a task only has to write its result. -/
theorem Task.execute_of_loaded {text : String} {g : Graph}
    (hread : Holds world task.input (Text.bytes text)) (hload : Graph.ofText text = .ok g) :
    task.execute world = writeOutput world.files task.output (task.result g) := by
  unfold execute
  rw [readInput_eq_ok.mpr hread]
  show loadInput text >>= _ = _
  rw [loadInput_eq_ok.mpr hload]
  rfl

/-- An input encodes one text. -/
theorem text_eq_of_holds {input : Option String} {text text' : String}
    (h : Holds world input (Text.bytes text)) (h' : Holds world input (Text.bytes text')) :
    text = text' := by
  have hread := readInput_eq_ok.mpr h
  rw [readInput_eq_ok.mpr h'] at hread
  cases hread
  rfl

end execution

/-! ### Runs -/

/-- The effect of executing a task: nothing is written if it fails. -/
def Task.effect (task : Task) (world : World) : Nat × String × Files :=
  match task.execute world with
  | .ok written => (0, written.output, written.files)
  | .error _ => (1, "", world.files)

/-- What is told has no part in the effect of a run. -/
theorem effect_run (invocation : Invocation) (stamp : String) (world : World) :
    (invocation.run stamp world).effect = invocation.task.effect world := by
  unfold Invocation.run Task.effect
  cases invocation.task.execute world with
  | ok written => rfl
  | error message => rfl

theorem effect_of_accepted {arguments : List String} {invocation : Invocation}
    (h : Invocation.ofArguments arguments = .ok invocation) (stamp : String) (world : World) :
    (run arguments stamp world).effect = invocation.task.effect world := by
  unfold run
  rw [h]
  exact effect_run invocation stamp world

/-- The environment has no part in the effect of a task. -/
theorem Task.effect_environment (task : Task) (world : World)
    (environment : List (String × String)) :
    task.effect { world with environment := environment } = task.effect world := rfl

section effects
variable {task : Task} {world : World}

theorem Task.effect_of_not_loaded
    (h : ∀ text g, Holds world task.input (Text.bytes text) → Graph.ofText text ≠ .ok g) :
    task.effect world = (1, "", world.files) := by
  unfold effect
  cases hexecute : task.execute world with
  | error message => rfl
  | ok written =>
      obtain ⟨text, g, hread, hload, -⟩ := execute_eq_ok hexecute
      exact absurd hload (h text g hread)

variable {text : String} {g : Graph} (hread : Holds world task.input (Text.bytes text))
  (hload : Graph.ofText text = .ok g)
include hread hload

/-- A result without a file is shown. -/
theorem Task.effect_of_shown (houtput : task.output = none ∨ task.output = some "-") :
    task.effect world = (0, task.result g, world.files) := by
  have hnone : namedPath? task.output = none := by
    rcases houtput with houtput | houtput <;> rw [houtput] <;> rfl
  unfold effect
  rw [execute_of_loaded hread hload, writeOutput, hnone]

section file
variable {path : String} (houtput : task.output = some path) (hpath : path ≠ "-")
include houtput hpath

/-- A result goes to its file if the place of the file can be reached. -/
theorem Task.effect_of_written (hreaches : world.files.Reaches (Path.ofString path)) :
    ∃ files, task.effect world = (0, "", files) ∧
      world.files.Receives ((Path.ofString path).place world.files.home)
        (Text.bytes (task.result g)) files := by
  obtain ⟨files, hwrite, hreceives⟩ := hreaches.write_eq (Text.bytes (task.result g))
  refine ⟨files, ?_, hreceives⟩
  unfold effect
  rw [execute_of_loaded hread hload]
  simp only [writeOutput, houtput, namedPath?_file hpath, hwrite]

theorem Task.effect_of_unreached (hreaches : ¬ world.files.Reaches (Path.ofString path)) :
    task.effect world = (1, "", world.files) := by
  obtain ⟨e, hwrite⟩ := Files.write_eq_error hreaches (Text.bytes (task.result g))
  unfold effect
  rw [execute_of_loaded hread hload]
  simp only [writeOutput, houtput, namedPath?_file hpath, hwrite]

end file

end effects

/-- A text of two declarations, one of which is internal. -/
def lamps : String :=
  "\x7b\"types\":[\x7b\"name\":\"Lamp\"\x7d,\x7b\"name\":\"Wick\",\"visibility\":\"internal\"\x7d]\x7d"

/-- The lamps in a file, another file that is no text, and a variable that names no layout. -/
def lighthouse : World where
  input := [0xFF]
  files := {
    home := ["coast"]
    contents := [(["coast", "lamps.json"], Text.bytes lamps), (["coast", "fog.json"], [0xFF])] }
  environment := [("TYPEUML_LOG_FORMAT", "lantern")]

/-- The arguments that choose what is drawn of the lamps, and where. -/
def lampArguments : List String :=
  ["-i", "lamps.json", "--visibility=public-only", "--theme", "plain", "-olamp.puml"]

theorem written_lampArguments :
    Choices.Written
      { input := some "lamps.json", output := some "lamp.puml", filter := some .publicOnly,
        theme := some "plain" } lampArguments := by
  have houtput : Choices.Written { output := some "lamp.puml" } ["-olamp.puml"] := by
    have hspells : Spells "output" (some 'o') "lamp.puml" ["-olamp.puml"] :=
      .letterGlued rfl (by decide) (by decide)
    exact .output hspells (by decide) rfl .done
  have htheme : Choices.Written { output := some "lamp.puml", theme := some "plain" }
      ["--theme", "plain", "-olamp.puml"] := by
    have hspells : Spells "theme" none "plain" ["--theme", "plain"] := .apart (.inr (by decide))
    exact .theme hspells rfl houtput
  have hfilter : Choices.Written
      { output := some "lamp.puml", theme := some "plain", filter := some .publicOnly }
      ["--visibility=public-only", "--theme", "plain", "-olamp.puml"] := by
    have hspells : Spells "visibility" none Filter.publicOnly.title ["--visibility=public-only"] :=
      .attached
    exact .filter hspells rfl htheme
  have hspells : Spells "input" (some 'i') "lamps.json" ["-i", "lamps.json"] :=
    .letterApart rfl (.inr (by decide))
  exact .input hspells (by decide) rfl hfilter

theorem written_fogArguments :
    Choices.Written { input := some "fog.json", output := some "fog.json" }
      ["--input=fog.json", "-o", "fog.json"] := by
  have houtput : Choices.Written { output := some "fog.json" } ["-o", "fog.json"] := by
    have hspells : Spells "output" (some 'o') "fog.json" ["-o", "fog.json"] :=
      .letterApart rfl (.inr (by decide))
    exact .output hspells (by decide) rfl .done
  have hspells : Spells "input" (some 'i') "fog.json" ["--input=fog.json"] := .attached
  exact .input hspells (by decide) rfl houtput

end ClassDiagram.Command
