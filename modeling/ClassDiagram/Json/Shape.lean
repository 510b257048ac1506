import ClassDiagram.Json.Cause

/-! # Shapes of documents

Two shapes occur in documents besides the plain ones.  A *vocabulary* is a set of words, and a
*record* is a fixed list of fields.  A record is written as an object or as a list of its fields in
order.  It is read field by field into a draft, which is finished when nothing more comes. -/

namespace ClassDiagram.Json

universe u

/-- Types whose values are words. -/
class Vocabulary (α : Type) where
  /-- The word for a value. -/
  name : α → String
  /-- The value that a word stands for. -/
  ofName : String → Except Cause α

/-- The place of a field in a record; the field's value is taken in `m`. -/
structure Slot (m : Type → Type u) (δ : Type) where
  name : String
  required : Bool
  /-- Whether the draft has this field. -/
  filled : δ → Bool
  /-- Takes the field's value and puts it into the draft. -/
  fill : δ → m δ

/-- The slot of a field that a draft keeps as an option. -/
def Slot.of {m : Type → Type u} [Functor m] {δ β : Type} (name : String) (required : Bool)
    (get : δ → Option β) (put : δ → β → δ) (take : m β) : Slot m δ where
  name := name
  required := required
  filled draft := (get draft).isSome
  fill draft := put draft <$> take

/-- A record: its fields, and how a draft becomes a value. -/
structure Record (m : Type → Type u) (δ α : Type) where
  /-- The name of the record in refusals. -/
  title : String
  slots : List (Slot m δ)
  /-- The draft without any field. -/
  blank : δ
  /-- The record of a draft; a required field that is missing is refused. -/
  finish : δ → Except Cause α

variable {m : Type → Type u} {δ α : Type}

/-- A number of elements. -/
def elements (n : Nat) : String :=
  Decimal.digitsText n ++ (if n = 1 then " element" else " elements")

/-- What is expected when a value is not a record. -/
def Record.expected (r : Record m δ α) : String := "struct " ++ r.title

/-- The refusal of a list that ends before the required field number `index`. -/
def Record.tooShort (r : Record m δ α) (index : Nat) : Cause :=
  .wrongLength index (r.expected ++ " with " ++ elements r.slots.length)

/-- The slot of a name. -/
def Record.slot? (r : Record m δ α) (name : String) : Option (Slot m δ) :=
  r.slots.find? (·.name == name)

/-- The value of a field that must not be missing. -/
def present (name : String) (value : Option α) : Except Cause α :=
  match value with
  | some a => .ok a
  | none => .error (.missingField name)

end ClassDiagram.Json
