import ClassDiagram.Json.Reader
import ClassDiagram.Text.Utf8

/-! # Reading strings

`stringBody` reads what stands after an opening quote and yields the bytes that it denotes; `string`
reads those bytes as text.  `skipString` passes over a string that nobody asks for: it checks the
escapes' form, but neither surrogates nor the encoding. -/

namespace ClassDiagram.Json.Reader

/-- The bytes that stand for themselves inside a string. -/
def isPlain (b : UInt8) : Bool := 0x20 ≤ b && b != 0x22 && b != 0x5C

/-- The next byte of a string, which must not end here. -/
def nextInString : Reader UInt8 := do
  match ← next with
  | some b => return b
  | none => refuse .stringEnds

/-- The value of a hexadecimal digit. -/
def hexDigit? (b : UInt8) : Option Nat :=
  let n := b.toNat
  if 0x30 ≤ n ∧ n ≤ 0x39 then some (n - 0x30)
  else if 0x41 ≤ n ∧ n ≤ 0x46 then some (n - 0x37)
  else if 0x61 ≤ n ∧ n ≤ 0x66 then some (n - 0x57)
  else none

/-- The number that four hexadecimal digits denote. -/
def hexNumber? (a b c d : UInt8) : Option Nat := do
  let w ← hexDigit? a
  let x ← hexDigit? b
  let y ← hexDigit? c
  let z ← hexDigit? d
  return ((w * 16 + x) * 16 + y) * 16 + z

/-- Four hexadecimal digits; all four are consumed before they are judged. -/
def hexEscape : Reader Nat := do
  let a ← nextInString
  let b ← nextInString
  let c ← nextInString
  let d ← nextInString
  match hexNumber? a b c d with
  | some n => return n
  | none => refuse .badEscape

/-- The character that follows a backslash in its short escape. -/
def shortEscape? (letter : Char) : Option Char :=
  match letter with
  | '"' => some '"'
  | '\\' => some '\\'
  | '/' => some '/'
  | 'b' => some '\x08'
  | 'f' => some '\x0c'
  | 'n' => some '\n'
  | 'r' => some '\r'
  | 't' => some '\t'
  | _ => none

/-- The byte `letter` has to come next within a surrogate pair; any other byte is consumed too. -/
def pairLetter (letter : Char) : Reader Unit := do
  let b ← nextInString
  if Char.ofUInt8 b = letter then return () else refuse .hexEscapeEnds

/-- The first halves of surrogate pairs. -/
def isLeadSurrogate (n : Nat) : Bool := 0xD800 ≤ n && n ≤ 0xDBFF

/-- The second halves of surrogate pairs. -/
def isTrailSurrogate (n : Nat) : Bool := 0xDC00 ≤ n && n ≤ 0xDFFF

/-- The character that a surrogate pair denotes. -/
def pairChar (lead trail : Nat) : Char :=
  Char.ofNat (0x10000 + (lead - 0xD800) * 0x400 + (trail - 0xDC00))

/-- The character that `\u` and its digits denote; a leading surrogate needs its trailing one. -/
def unicodeEscape : Reader Char := do
  let n ← hexEscape
  if isTrailSurrogate n then refuse .loneSurrogate
  else if isLeadSurrogate n then
    pairLetter '\\'
    pairLetter 'u'
    let m ← hexEscape
    if isTrailSurrogate m then return pairChar n m else refuse .loneSurrogate
  else return Char.ofNat n

/-- The character that an escape denotes, read after its backslash. -/
def escape : Reader Char := do
  let letter := Char.ofUInt8 (← nextInString)
  if letter = 'u' then unicodeEscape
  else
    match shortEscape? letter with
    | some c => return c
    | none => refuse .badEscape

/-- Reads on up to the end of an escape or to the closing quote; `done` are the bytes before. -/
def stringStep (done : List UInt8) : Reader (Step (List UInt8) (List UInt8)) := do
  let run ← span isPlain
  match Char.ofUInt8 (← nextInString) with
  | '"' => return .done (done ++ run)
  | '\\' =>
    let c ← escape
    return .again (done ++ run ++ String.utf8EncodeChar c)
  | _ => refuse .controlCharacter

/-- The bytes of a string up to its closing quote. -/
def stringBody : Reader (List UInt8) := repeating stringStep []

/-- A string, read after its opening quote.  Bytes that are not text are refused at the place as
many bytes before the closing quote as there are from the first offending one on. -/
def stringRest : Reader String := do
  let body ← stringBody
  match Text.decode body with
  | .ok s => return s
  | .error good => refuseBack (body.length - good) .badUnicode

/-- Passes over an escape, read after its backslash. -/
def skipEscape : Reader Unit := do
  let letter := Char.ofUInt8 (← nextInString)
  if letter = 'u' then
    let _ ← hexEscape
  else if (shortEscape? letter).isSome then return ()
  else refuse .badEscape

/-- Passes over a string, read after its opening quote.  A control character is refused without
being consumed. -/
def skipString : Reader Unit :=
  repeating (fun _ => do
    let _ ← span isPlain
    match ← peek with
    | none => refuse .stringEnds
    | some '"' => do
      advance
      return .done ()
    | some '\\' => do
      advance
      skipEscape
      return .again ()
    | some _ => refuse .controlCharacter) ()

end ClassDiagram.Json.Reader
