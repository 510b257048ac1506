/-! # Lines and columns

A place in a byte sequence is the number of bytes before it; people are told a line and a column.
Lines count from one, and the column is the number of bytes since the last line break.  Whoever has
the bytes at hand counts them (`Position.ofOffset`); whoever sees each byte once keeps the position
up to date instead (`Position.step`). -/

namespace ClassDiagram.Text

/-- The byte that ends a line. -/
def newline : UInt8 := 10

/-- A line and a column. -/
structure Position where
  line : Nat
  column : Nat
  deriving DecidableEq, Repr

/-- The position reached after the given bytes. -/
def Position.after (seen : List UInt8) : Position where
  line := 1 + seen.count newline
  column := (seen.reverse.takeWhile (· != newline)).length

/-- The position `offset` bytes into `input`. -/
def Position.ofOffset (input : List UInt8) (offset : Nat) : Position :=
  Position.after (input.take offset)

/-- The position in front of the first byte. -/
def Position.start : Position := ⟨1, 0⟩

/-- The position behind one more byte. -/
def Position.step (p : Position) (b : UInt8) : Position :=
  if b = newline then ⟨p.line + 1, 0⟩ else ⟨p.line, p.column + 1⟩

/-- The position `n` columns back. -/
def Position.back (p : Position) (n : Nat) : Position := ⟨p.line, p.column - n⟩

theorem Position.one_le_line (seen : List UInt8) : 1 ≤ (Position.after seen).line := by
  simp [Position.after]

end ClassDiagram.Text
