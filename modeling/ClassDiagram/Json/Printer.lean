import ClassDiagram.Json.Basic

/-! # Writing JSON

`Json.write` lays a value out with the line breaks of a `Layout`: none (`compact`), or one item a
line indented by two spaces a level (`pretty`).  Empty arrays and objects are never broken. -/

namespace ClassDiagram.Json

/-- The four-digit escape of a control character. -/
def controlEscape (c : Char) : String :=
  "\\u00" ++ String.ofList [Nat.digitChar (c.toNat / 16), Nat.digitChar (c.toNat % 16)]

/-- The spelling of one character inside a string: quotes, backslashes and controls are escaped. -/
def escapedChar (c : Char) : String :=
  if c = '"' then "\\\""
  else if c = '\\' then "\\\\"
  else if c = '\x08' then "\\b"
  else if c = '\x0c' then "\\f"
  else if c = '\n' then "\\n"
  else if c = '\r' then "\\r"
  else if c = '\t' then "\\t"
  else if c.toNat < 0x20 then controlEscape c
  else String.singleton c

/-- The spelling of a list of characters inside a string. -/
def escapedChars : List Char → String
  | [] => ""
  | c :: rest => escapedChar c ++ escapedChars rest

/-- A string with its quotes. -/
def stringText (s : String) : String := "\"" ++ escapedChars s.toList ++ "\""

/-- The blanks of a layout. -/
structure Layout where
  /-- What stands before an item, or before a closing bracket, at a nesting level. -/
  lineBreak : Nat → String
  /-- What stands between the colon and the value. -/
  gap : String

/-- No blanks at all. -/
def Layout.compact : Layout := ⟨fun _ => "", ""⟩

/-- One item a line, two spaces a level. -/
def Layout.pretty : Layout :=
  ⟨fun level => "\n" ++ String.ofList (List.replicate (2 * level) ' '), " "⟩

mutual

/-- The text of a value that stands at nesting depth `level`. -/
def writeAt (lay : Layout) (level : Nat) : Json → String
  | .null => "null"
  | .bool true => "true"
  | .bool false => "false"
  | .number n => n.text
  | .string s => stringText s
  | .array [] => "[]"
  | .array (v :: rest) =>
    "[" ++ lay.lineBreak (level + 1) ++ writeAt lay (level + 1) v ++ writeItems lay (level + 1) rest
      ++ lay.lineBreak level ++ "]"
  | .object [] => "\x7b\x7d"
  | .object ((key, v) :: rest) =>
    "\x7b" ++ lay.lineBreak (level + 1) ++ stringText key ++ ":" ++ lay.gap
      ++ writeAt lay (level + 1) v ++ writeEntries lay (level + 1) rest
      ++ lay.lineBreak level ++ "\x7d"
termination_by structural v => v

/-- The items after the first one, each with the comma before it. -/
def writeItems (lay : Layout) (level : Nat) : List Json → String
  | [] => ""
  | v :: rest => "," ++ lay.lineBreak level ++ writeAt lay level v ++ writeItems lay level rest
termination_by structural items => items

/-- The entries after the first one, each with the comma before it. -/
def writeEntries (lay : Layout) (level : Nat) : List (String × Json) → String
  | [] => ""
  | (key, v) :: rest =>
    "," ++ lay.lineBreak level ++ stringText key ++ ":" ++ lay.gap ++ writeAt lay level v
      ++ writeEntries lay level rest
termination_by structural entries => entries

end

/-- The text of a value. -/
def write (lay : Layout) (v : Json) : String := writeAt lay 0 v

/-- The text of a value without blanks. -/
def compact : Json → String := write .compact

/-- The text of a value with one item a line. -/
def pretty : Json → String := write .pretty

end ClassDiagram.Json
