import ClassDiagram.Json.Basic
import ClassDiagram.Text.Quoted

/-! # Why a document is refused

`Cause` lists every reason for which a document is not accepted: it is not JSON, or it is JSON of
another shape than the one asked for.  `Cause.message` holds all the wording. -/

namespace ClassDiagram.Json

/-- What a reader met where it wanted something else. -/
inductive Found where
  | null
  | bool (value : Bool)
  | number (value : Number)
  | string (value : String)
  | sequence
  | map

/-- The kind of a value; strings and numbers are shown, containers are only named. -/
def found : Json → Found
  | .null => .null
  | .bool b => .bool b
  | .number n => .number n
  | .string s => .string s
  | .array _ => .sequence
  | .object _ => .map

/-- How a refusal names what was met. -/
def Found.text : Found → String
  | .null => "null"
  | .bool b => "boolean `" ++ (if b then "true" else "false") ++ "`"
  | .number (.integer n) => "integer `" ++ (Number.integer n).text ++ "`"
  | .number (.real x) => "floating point `" ++ (Number.real x).text ++ "`"
  | .string s => "string " ++ Text.quoted s
  | .sequence => "sequence"
  | .map => "map"

/-- Why a document is refused. -/
inductive Cause where
  /-- The input ends inside of a value. -/
  | valueEnds
  | stringEnds
  | listEnds
  | objectEnds
  | valueExpected
  | identExpected
  | listCommaExpected
  | objectCommaExpected
  | colonExpected
  | trailingComma
  | trailingCharacters
  | keyNotString
  | controlCharacter
  | badEscape
  | loneSurrogate
  | hexEscapeEnds
  | badUnicode
  | badNumber
  | numberTooLarge
  | tooDeep
  /-- A value of another type than the expected one. -/
  | wrongType (found : Found) (expected : String)
  /-- An object that should name one variant has no key or several. -/
  | notSingleKey
  /-- A sequence with another number of items than the expected one. -/
  | wrongLength (length : Nat) (expected : String)
  | missingField (name : String)
  | duplicateField (name : String)
  | unknownVariant (name : String) (known : List String)

/-- A name in backquotes. -/
def backquoted (name : String) : String := "`" ++ name ++ "`"

/-- The choice between names. -/
def alternatives : List String → String
  | [a] => backquoted a
  | [a, b] => backquoted a ++ " or " ++ backquoted b
  | names => "one of " ++ ", ".intercalate (names.map backquoted)

/-- The wording of a refusal. -/
def Cause.message : Cause → String
  | .valueEnds => "EOF while parsing a value"
  | .stringEnds => "EOF while parsing a string"
  | .listEnds => "EOF while parsing a list"
  | .objectEnds => "EOF while parsing an object"
  | .valueExpected => "expected value"
  | .identExpected => "expected ident"
  | .listCommaExpected => "expected `,` or `]`"
  | .objectCommaExpected => "expected `,` or `\x7d`"
  | .colonExpected => "expected `:`"
  | .trailingComma => "trailing comma"
  | .trailingCharacters => "trailing characters"
  | .keyNotString => "key must be a string"
  | .controlCharacter => "control character (\\u0000-\\u001F) found while parsing a string"
  | .badEscape => "invalid escape"
  | .loneSurrogate => "lone leading surrogate in hex escape"
  | .hexEscapeEnds => "unexpected end of hex escape"
  | .badUnicode => "invalid unicode code point"
  | .badNumber => "invalid number"
  | .numberTooLarge => "number out of range"
  | .tooDeep => "recursion limit exceeded"
  | .wrongType found expected => "invalid type: " ++ found.text ++ ", expected " ++ expected
  | .notSingleKey => "invalid value: map, expected map with a single key"
  | .wrongLength n expected =>
    "invalid length " ++ Decimal.digitsText n ++ ", expected " ++ expected
  | .missingField name => "missing field " ++ backquoted name
  | .duplicateField name => "duplicate field " ++ backquoted name
  | .unknownVariant name known =>
    "unknown variant " ++ backquoted name ++ ", expected " ++ alternatives known

end ClassDiagram.Json
