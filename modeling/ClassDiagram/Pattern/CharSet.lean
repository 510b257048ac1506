import ClassDiagram.Text.Ranges

/-! # Sets of characters

A set is a list of inclusive ranges of code points, in ascending order and with gaps between them.
So equal sets have equal lists. -/

namespace ClassDiagram.Pattern

/-- A set of characters. -/
structure CharSet where
  ranges : List (Nat × Nat)
  deriving DecidableEq, Repr

namespace CharSet

/-- Whether a character is in the set. -/
def contains (s : CharSet) (c : Char) : Bool := Text.inRanges s.ranges c

/-- The largest code point. -/
def largest : Nat := 0x10FFFF

/-- No characters. -/
def empty : CharSet := ⟨[]⟩

/-- All characters. -/
def any : CharSet := ⟨[(0, largest)]⟩

/-- The characters from one to another. -/
def range (low high : Char) : CharSet := ⟨[(low.toNat, high.toNat)]⟩

/-- One character. -/
def single (c : Char) : CharSet := range c c

/-- Joins those of some ascending ranges that overlap or touch. -/
def joined : List (Nat × Nat) → List (Nat × Nat)
  | a :: b :: rest =>
    if b.1 ≤ a.2 + 1 then joined ((a.1, max a.2 b.2) :: rest) else a :: joined (b :: rest)
  | rs => rs
termination_by rs => rs.length

/-- The set that ranges in any order make up. -/
def ofRanges (rs : List (Nat × Nat)) : CharSet :=
  ⟨joined (rs.mergeSort fun a b => decide (a.1 ≤ b.1))⟩

/-- The ranges between the given ones, from a code point on. -/
def gaps (start : Nat) : List (Nat × Nat) → List (Nat × Nat)
  | [] => if start ≤ largest then [(start, largest)] else []
  | (low, high) :: rest =>
    if start < low then (start, low - 1) :: gaps (high + 1) rest else gaps (high + 1) rest

/-- All other characters. -/
def complement (s : CharSet) : CharSet := ⟨gaps 0 s.ranges⟩

/-- The characters of one set or the other. -/
def union (a b : CharSet) : CharSet := ofRanges (a.ranges ++ b.ranges)

/-- The characters of several sets. -/
def unionAll (ss : List CharSet) : CharSet := ofRanges (ss.flatMap ranges)

/-- The characters of both sets. -/
def intersection (a b : CharSet) : CharSet := (a.complement.union b.complement).complement

/-- The characters of one set that are not in the other. -/
def difference (a b : CharSet) : CharSet := a.intersection b.complement

/-- The characters of exactly one of two sets. -/
def symmetricDifference (a b : CharSet) : CharSet := (a.difference b).union (b.difference a)

/-- The small letters of the basic Latin alphabet. -/
def lower : CharSet := range 'a' 'z'

/-- The capital letters of the basic Latin alphabet. -/
def upper : CharSet := range 'A' 'Z'

/-- The set together with the other case of each of its basic Latin letters. -/
def anyCase (s : CharSet) : CharSet :=
  let capitals := (s.intersection lower).ranges.map fun (low, high) => (low - 0x20, high - 0x20)
  let smalls := (s.intersection upper).ranges.map fun (low, high) => (low + 0x20, high + 0x20)
  ofRanges (s.ranges ++ capitals ++ smalls)

/-- The only character of a set, if there is just one. -/
def only? (s : CharSet) : Option Char :=
  match s.ranges with
  | [(low, high)] => if low = high then some (Char.ofNat low) else none
  | _ => none

/-- The digits. -/
def digits : CharSet := range '0' '9'

/-- The letters of the basic Latin alphabet. -/
def letters : CharSet := lower.union upper

/-- Letters, digits and the underscore. -/
def wordCharacters : CharSet := unionAll [letters, digits, single '_']

/-- Tabulators, line and page breaks, and the blank. -/
def spaces : CharSet := (range '\t' '\r').union (single ' ')

/-- The sets of basic Latin characters that have a name. -/
def named? : String → Option CharSet
  | "alnum" => some (letters.union digits)
  | "alpha" => some letters
  | "ascii" => some (range '\x00' '\x7f')
  | "blank" => some ((single '\t').union (single ' '))
  | "cntrl" => some ((range '\x00' '\x1f').union (single '\x7f'))
  | "digit" => some digits
  | "graph" => some (range '!' '~')
  | "lower" => some lower
  | "print" => some (range ' ' '~')
  | "punct" => some ((range '!' '~').difference (letters.union digits))
  | "space" => some spaces
  | "upper" => some upper
  | "word" => some wordCharacters
  | "xdigit" => some (unionAll [digits, range 'A' 'F', range 'a' 'f'])
  | _ => none

end CharSet

end ClassDiagram.Pattern
