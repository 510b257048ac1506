import ClassDiagram.Decimal.Layout

/-! # JSON values

The data model of the interchange format.  An object keeps its entries in the order in which they
were written, repeated keys included, because a reader has to tell them apart. -/

namespace ClassDiagram

namespace Json

/-- A number is kept as an integer as long as it fits into 64 bits. -/
inductive Number where
  | integer (value : Int)
  | real (value : Float)

/-- Reals are positional from `10^-5` up to below `10^16`. -/
def realLayout : Decimal.Layout := ⟨-5, 15⟩

/-- The decimal text of a number. -/
def Number.text : Number → String
  | .integer n => (if n < 0 then "-" else "") ++ Decimal.digitsText n.natAbs
  | .real x => realLayout.render x

end Json

/-- A JSON value. -/
inductive Json where
  | null
  | bool (value : Bool)
  | number (value : Json.Number)
  | string (value : String)
  | array (items : List Json)
  | object (entries : List (String × Json))

namespace Json

/-- A count as a number. -/
def count (n : Nat) : Json := .number (.integer n)

/-- The value of the first entry with the given key. -/
def get? (key : String) : Json → Option Json
  | .object entries => (entries.find? fun entry => entry.1 == key).map (·.2)
  | _ => none

end Json

end ClassDiagram
