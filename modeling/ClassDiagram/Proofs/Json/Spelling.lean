import ClassDiagram.Json.Basic
import ClassDiagram.Text.Utf8

/-! # Spellings of JSON values

A value can be written in many ways: any blanks may stand between its tokens, and a character of a
string can be written as itself, by a short escape, or by its number.  `Spells v text` relates a
value to all byte sequences that write it, without blanks around them.  It is the grammar that
writing and reading are measured against: what the printer lays out is a spelling, and a reader
accepts every spelling.

Numbers are left out, because declarations hold none. -/

namespace ClassDiagram.Json

/-- Space, tab, line feed and carriage return may stand between two tokens. -/
def Blank (gap : List UInt8) : Prop := ∀ b ∈ gap, b = 0x20 ∨ b = 0x09 ∨ b = 0x0A ∨ b = 0x0D

theorem Blank.nil : Blank [] := fun _ h => nomatch h

/-! ### Characters inside a string -/

/-- A hexadecimal digit and its value; letters may have either case. -/
inductive HexDigit : UInt8 → Nat → Prop
  | decimal {n : Nat} : n < 10 → HexDigit (UInt8.ofNat (n + 0x30)) n
  | upper {n : Nat} : n < 6 → HexDigit (UInt8.ofNat (n + 0x41)) (n + 10)
  | lower {n : Nat} : n < 6 → HexDigit (UInt8.ofNat (n + 0x61)) (n + 10)

/-- Four hexadecimal digits and the number that they denote. -/
inductive HexNumber : List UInt8 → Nat → Prop
  | mk {a b c d : UInt8} {w x y z : Nat} :
      HexDigit a w → HexDigit b x → HexDigit c y → HexDigit d z →
      HexNumber [a, b, c, d] (((w * 16 + x) * 16 + y) * 16 + z)

/-- The letters after a backslash and what they stand for. -/
def shortEscapes : List (UInt8 × Char) :=
  [(0x22, '"'), (0x5C, '\\'), (0x2F, '/'), (0x62, '\x08'), (0x66, '\x0c'), (0x6E, '\n'),
    (0x72, '\r'), (0x74, '\t')]

/-- The first half of the surrogate pair of a character beyond the basic plane. -/
def leadSurrogate (c : Char) : Nat := 0xD800 + (c.toNat - 0x10000) / 0x400

/-- The second half of the surrogate pair. -/
def trailSurrogate (c : Char) : Nat := 0xDC00 + (c.toNat - 0x10000) % 0x400

/-- The bytes after a backslash that stand for a character. -/
inductive Escape : Char → List UInt8 → Prop
  | short {letter : UInt8} {c : Char} : (letter, c) ∈ shortEscapes → Escape c [letter]
  | unit {c : Char} {digits : List UInt8} : HexNumber digits c.toNat → Escape c (0x75 :: digits)
  | pair {c : Char} {lead trail : List UInt8} : 0x10000 ≤ c.toNat →
      HexNumber lead (leadSurrogate c) → HexNumber trail (trailSurrogate c) →
      Escape c (0x75 :: (lead ++ 0x5C :: 0x75 :: trail))

/-- The bytes that stand for one character inside a string. -/
inductive SpellsChar : Char → List UInt8 → Prop
  | plain {c : Char} : 0x20 ≤ c.toNat → c ≠ '"' → c ≠ '\\' →
      SpellsChar c (String.utf8EncodeChar c)
  | escape {c : Char} {esc : List UInt8} : Escape c esc → SpellsChar c (0x5C :: esc)

/-- The bytes that stand for a sequence of characters inside a string. -/
inductive SpellsChars : List Char → List UInt8 → Prop
  | nil : SpellsChars [] []
  | cons {c : Char} {cs : List Char} {text body : List UInt8} :
      SpellsChar c text → SpellsChars cs body → SpellsChars (c :: cs) (text ++ body)

/-- A string with its quotes. -/
def quotation (body : List UInt8) : List UInt8 := 0x22 :: (body ++ [0x22])

/-! ### Values -/

/-- What stands before an item: blanks, and unless it is the first one, a comma among them. -/
inductive Separator : Bool → List UInt8 → Prop
  | first {gap : List UInt8} : Blank gap → Separator true gap
  | comma {gap gap' : List UInt8} : Blank gap → Blank gap' → Separator false (gap ++ 0x2C :: gap')

mutual

/-- The bytes that write a value. -/
inductive Spells : Json → List UInt8 → Prop
  | null : Spells .null (Text.bytes "null")
  | bool (b : Bool) : Spells (.bool b) (Text.bytes (if b then "true" else "false"))
  | string {s : String} {body : List UInt8} : SpellsChars s.toList body →
      Spells (.string s) (quotation body)
  | array {vs : List Json} {inner : List UInt8} : SpellsItems true vs inner →
      Spells (.array vs) (0x5B :: inner)
  | object {entries : List (String × Json)} {inner : List UInt8} :
      SpellsEntries true entries inner → Spells (.object entries) (0x7B :: inner)

/-- The bytes of the items of a list and of its closing bracket; the flag tells whether no item
comes before them. -/
inductive SpellsItems : Bool → List Json → List UInt8 → Prop
  | close {first : Bool} {gap : List UInt8} : Blank gap → SpellsItems first [] (gap ++ [0x5D])
  | item {first : Bool} {sep text rest : List UInt8} {v : Json} {vs : List Json} :
      Separator first sep → Spells v text → SpellsItems false vs rest →
      SpellsItems first (v :: vs) (sep ++ (text ++ rest))

/-- The bytes of the entries of an object and of its closing brace. -/
inductive SpellsEntries : Bool → List (String × Json) → List UInt8 → Prop
  | close {first : Bool} {gap : List UInt8} : Blank gap → SpellsEntries first [] (gap ++ [0x7D])
  | entry {first : Bool} {sep body gap gap' text rest : List UInt8} {key : String} {v : Json}
      {entries : List (String × Json)} :
      Separator first sep → SpellsChars key.toList body → Blank gap → Blank gap' →
      Spells v text → SpellsEntries false entries rest →
      SpellsEntries first ((key, v) :: entries)
        (sep ++ (quotation body ++ (gap ++ 0x3A :: (gap' ++ (text ++ rest)))))

end

end ClassDiagram.Json
