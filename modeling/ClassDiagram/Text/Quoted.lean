import ClassDiagram.Text.Shapeless

/-! # Quoted text

A text between double quotes in which quotes, backslashes and common controls are written with a
backslash, and every other character without a shape of its own as its code point `\u{…}`. -/

namespace ClassDiagram.Text

/-- The spelling of one character inside quotes. -/
def quotedChar (c : Char) : String :=
  if c = '"' then "\\\""
  else if c = '\\' then "\\\\"
  else if c = '\n' then "\\n"
  else if c = '\r' then "\\r"
  else if c = '\t' then "\\t"
  else if c = '\x00' then "\\0"
  else if isShapeless c then "\\u\x7b" ++ String.ofList (Nat.toDigits 16 c.toNat) ++ "\x7d"
  else String.singleton c

/-- The text in double quotes. -/
def quoted (s : String) : String :=
  "\"" ++ String.join (s.toList.map quotedChar) ++ "\""

end ClassDiagram.Text
