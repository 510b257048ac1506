import ClassDiagram.Embed.SourceModule
import ClassDiagram.Proofs.Embed.RawLiteral
import ClassDiagram.Proofs.Text.Reading

/-! # Reading embedded diagrams

A module is read from its start to its end: the banner, then constants, each with an empty line, a
line of documentation, its name and its value, which is a raw literal.  The reader knows neither how
many constants there are nor their names.

What it reads in a module are the diagrams that were written, under the names of their filters
(`read?_write`).  So a text cannot hide the end of its own constant or pass for another one, and no
two pairs of diagrams have the same module. -/

namespace ClassDiagram.SourceModule

open Text (skip? skip?_append readAll readAll_nil readAll_of_item)

/-! ### The reader -/

/-- A constant of a module. -/
structure Constant where
  name : String
  value : String
  deriving DecidableEq, Repr

/-- The constant at the start of a text, and what is left of the text. -/
def readConstant (cs : List Char) : Option (Constant × List Char) := do
  let doc ← skip? "\n/// " cs
  let definition ← skip? "\npub const " (doc.dropWhile (· != '\n'))
  let literal ← skip? ": &str = " (definition.dropWhile (· != ':'))
  let (value, rest) ← RawLiteral.read literal
  let left ← skip? ";\n" rest
  return (⟨String.ofList (definition.takeWhile (· != ':')), String.ofList value⟩, left)

theorem length_of_skip? {lead : String} {cs left : List Char} (h : skip? lead cs = some left) :
    cs.length = lead.toList.length + left.length := by
  rw [← Text.skip?_eq_some_iff.mp h, List.length_append]

/-- A constant takes up some of the text. -/
theorem progress_readConstant : Text.Progress readConstant := by
  intro cs c left h
  simp only [readConstant, bind, Option.bind_eq_some_iff, pure, Option.some.injEq,
    Prod.mk.injEq] at h
  obtain ⟨doc, hdoc, definition, hdef, literal, hlit, ⟨value, rest⟩, hread, left', hend, -, rfl⟩ :=
    h
  have h₁ := length_of_skip? hdoc
  have h₂ := length_of_skip? hdef
  have h₃ := length_of_skip? hlit
  have h₄ := RawLiteral.length_le_of_read hread
  have h₅ : rest.length = _ := length_of_skip? hend
  have h₆ := List.length_dropWhile_le (· != '\n') doc
  have h₇ := List.length_dropWhile_le (· != ':') definition
  have hlead : 0 < "\n/// ".toList.length := by decide
  omega

/-- The constants of a module. -/
def read? (text : String) : Option (List Constant) := do
  let cs ← skip? banner text.toList
  readAll readConstant progress_readConstant cs

/-! ### Reading back -/

/-- The documentation of a constant. -/
def summary (filter : Filter) : String :=
  "PlantUML class diagram (" ++ filter.title ++ " declarations)"

theorem constant_eq (filter : Filter) (content : String) :
    constant filter content = "\n/// " ++ summary filter ++ "\npub const " ++ filter.constantName
      ++ ": &str = " ++ RawLiteral.write content ++ ";\n" := by
  cases filter <;> rfl

theorem line_of_summary (filter : Filter) :
    ∀ c ∈ (summary filter).toList, (c != '\n') = true := by
  rw [← List.all_eq_true]
  cases filter <;> decide

theorem word_of_constantName (filter : Filter) :
    ∀ c ∈ filter.constantName.toList, (c != ':') = true := by
  rw [← List.all_eq_true]
  cases filter <;> decide

/-- A constant is read back, whatever follows. -/
theorem readConstant_append (filter : Filter) (content : String) (rest : List Char) :
    readConstant ((constant filter content).toList ++ rest) =
      some (⟨filter.constantName, content⟩, rest) := by
  have hdoc : ∀ tail : List Char,
      ((summary filter).toList ++ ("\npub const ".toList ++ tail)).dropWhile (· != '\n') =
        "\npub const ".toList ++ tail := fun tail => by
    rw [List.dropWhile_append_of_pos (line_of_summary filter)]
    rfl
  have hname : ∀ tail : List Char,
      (filter.constantName.toList ++ (": &str = ".toList ++ tail)).dropWhile (· != ':') =
        ": &str = ".toList ++ tail := fun tail => by
    rw [List.dropWhile_append_of_pos (word_of_constantName filter)]
    rfl
  have hword : ∀ tail : List Char,
      (filter.constantName.toList ++ (": &str = ".toList ++ tail)).takeWhile (· != ':') =
        filter.constantName.toList := fun tail => by
    rw [List.takeWhile_append_of_pos (word_of_constantName filter)]
    exact List.append_nil _
  simp only [constant_eq, String.toList_append, List.append_assoc, readConstant, skip?_append, hdoc,
    hname, hword, RawLiteral.read_write, bind, Option.bind_some, pure, String.ofList_toList]

/-- All constants are read back. -/
theorem readAll_constants (texts : List (Filter × String)) :
    readAll readConstant progress_readConstant (constants texts).toList =
      some (texts.map fun (filter, content) => ⟨filter.constantName, content⟩) := by
  induction texts with
  | nil => exact readAll_nil
  | cons text texts ih =>
      obtain ⟨filter, content⟩ := text
      rw [constants, String.toList_append,
        readAll_of_item (readConstant_append filter content _), ih]
      rfl

/-- In a module the diagrams are read that were written, the widest first. -/
theorem read?_write (variants : Variants) :
    read? (write variants) = some [⟨"PUBLIC_OR_INTERNAL_DIAGRAM", variants.publicOrInternal⟩,
      ⟨"PUBLIC_ONLY_DIAGRAM", variants.publicOnly⟩] := by
  rw [read?, write, String.toList_append, skip?_append]
  exact readAll_constants variants.toList

/-- **A module is read back**: its two constants hold the texts that were written, so texts that
differ have different modules, and the constants for a catalog hold its diagrams. -/
theorem module_reads_back :
    (∀ variants : Variants,
      read? (write variants) = some [⟨"PUBLIC_OR_INTERNAL_DIAGRAM", variants.publicOrInternal⟩,
        ⟨"PUBLIC_ONLY_DIAGRAM", variants.publicOnly⟩]) ∧
    Function.Injective write ∧
    ∀ {κ : Type} [Catalog κ] (theme : String) (catalog : κ),
      read? (write (renderAll theme catalog)) =
        some [⟨"PUBLIC_OR_INTERNAL_DIAGRAM", render theme catalog .publicOrInternal⟩,
          ⟨"PUBLIC_ONLY_DIAGRAM", render theme catalog .publicOnly⟩] := by
  refine ⟨read?_write, fun v v' heq => ?_, fun theme catalog => read?_write _⟩
  have hread := (read?_write v).symm.trans ((congrArg read? heq).trans (read?_write v'))
  simp only [Option.some.injEq, List.cons.injEq, Constant.mk.injEq, true_and, and_true] at hread
  obtain ⟨hwide, hnarrow⟩ := hread
  exact congrArg₂ Variants.mk hwide hnarrow

end ClassDiagram.SourceModule
