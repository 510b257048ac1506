import ClassDiagram.Pattern.Expr
import ClassDiagram.Pattern.Flags

/-! # Escapes

What a backslash and the characters behind it stand for. -/

namespace ClassDiagram.Pattern

/-- The meaning of a single element of a pattern. -/
inductive Atom where
  /-- A character; `asByte` if it is written as a byte. -/
  | char (c : Char) (asByte : Bool)
  /-- A character of a set of basic Latin ones, or any other. -/
  | shorthand (s : CharSet) (negated : Bool)
  /-- The start or the end of the text. -/
  | edge (l : Look)
  /-- A condition on the words at a place. -/
  | word (l : Look)

/-- The value of a hexadecimal digit. -/
def hexDigit? (c : Char) : Option Nat :=
  if c.isDigit then some (c.toNat - '0'.toNat)
  else if 'a' ≤ c ∧ c ≤ 'f' then some (c.toNat - 'a'.toNat + 10)
  else if 'A' ≤ c ∧ c ≤ 'F' then some (c.toNat - 'A'.toNat + 10)
  else none

/-- Reads a number of hexadecimal digits; `value` is the number of those before. -/
def readHex? (f : Flags) : (count value : Nat) → List Char → Option (Nat × List Char)
  | 0, value, cs => some (value, cs)
  | count + 1, value, cs =>
    match significant f cs with
    | [] => none
    | c :: rest => do readHex? f count (value * 16 + (← hexDigit? c)) rest

/-- Reads the character with a code of the given number of digits. -/
def readCode? (f : Flags) (count : Nat) (cs : List Char) : Option (Atom × List Char) := do
  let (value, rest) ← readHex? f count 0 cs
  if value.isValidChar then some (.char (Char.ofNat value) (count == 2), rest) else none

/-- The meaning of a character behind a backslash.  Punctuation stands for itself. -/
def atom? : Char → Option Atom
  | 'd' => some (.shorthand .digits false)
  | 'D' => some (.shorthand .digits true)
  | 's' => some (.shorthand .spaces false)
  | 'S' => some (.shorthand .spaces true)
  | 'w' => some (.shorthand .wordCharacters false)
  | 'W' => some (.shorthand .wordCharacters true)
  | 'A' => some (.edge .textStart)
  | 'z' => some (.edge .textEnd)
  | 'b' => some (.word .wordBoundary)
  | 'B' => some (.word .notWordBoundary)
  | '<' => some (.word .wordStart)
  | '>' => some (.word .wordEnd)
  | 'a' => some (.char '\x07' false)
  | 't' => some (.char '\t' false)
  | 'n' => some (.char '\n' false)
  | 'v' => some (.char '\x0b' false)
  | 'f' => some (.char '\x0c' false)
  | 'r' => some (.char '\r' false)
  | c => if c.toNat < 0x80 ∧ !c.isAlphanum then some (.char c false) else none

/-- Reads what follows a backslash. -/
def readEscape? (f : Flags) : List Char → Option (Atom × List Char)
  | [] => none
  | 'x' :: rest => readCode? f 2 rest
  | 'u' :: rest => readCode? f 4 rest
  | 'U' :: rest => readCode? f 8 rest
  | c :: rest => do return (← atom? c, rest)

/-! ### Sets of elements -/

/-- The set of the characters from one to another, as flags have it.  Without knowledge of all
alphabets, cases can be ignored only among the basic Latin characters, and a pattern for those takes
no others. -/
def rangeSet? (f : Flags) (low high : Char) : Option CharSet :=
  let set := CharSet.range low high
  if high < low then none
  else if f.unicode then if f.ignoreCase then none else some set
  else if high.toNat < 0x80 then some (if f.ignoreCase then set.anyCase else set)
  else none

/-- A set of basic Latin characters that has a name, or all other characters, as flags have it. -/
def namedSet? (f : Flags) (s : CharSet) (negated : Bool) : Option CharSet :=
  if f.unicode then
    if f.ignoreCase then none else some (if negated then s.complement else s)
  else if negated then none
  else some (if f.ignoreCase then s.anyCase else s)

/-- The set of a shorthand, which has to be one of basic Latin characters. -/
def shorthandSet? (f : Flags) (s : CharSet) (negated : Bool) : Option CharSet :=
  if f.unicode ∨ negated then none else some s

end ClassDiagram.Pattern
