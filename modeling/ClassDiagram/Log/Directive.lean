import ClassDiagram.Log.Threshold
import ClassDiagram.Pattern.Reading
import ClassDiagram.Pattern.Search
import ClassDiagram.Text.Alphanumeric
import ClassDiagram.Text.Blank
import ClassDiagram.Text.Utf8

/-! # Directives

A directive says how much is shown of certain reports.  It is written as a level, a target, or a
target with a level after an equals sign.  Brackets after the target name a span, a value of it, or
both: `target[span{name=value}]=level`. -/

namespace ClassDiagram.Log

/-! ### Values -/

/-- What is asked of a reported value. -/
inductive Test where
  /-- Nothing that is reported passes. -/
  | never
  | count (n : Nat)
  /-- A text in which a search for a pattern reaches the end; `source` is how it is written. -/
  | text (source : String) (pattern : Pattern.Program)
  deriving DecidableEq, Repr

namespace Test

/-- Whether a value passes. -/
def passes : Test → Value → Bool
  | .count n, .count m => n == m
  | .text _ p, .plain s => p.reachesEnd s
  | .text _ p, .quoted s => p.reachesEnd s
  | _, _ => false

/-- Digits with a point among or beside them, perhaps followed by an exponent. -/
def isDecimal (cs : List Char) : Bool :=
  let whole := cs.takeWhile Char.isDigit
  let (fraction, rest) :=
    match cs.dropWhile Char.isDigit with
    | '.' :: tail => (tail.takeWhile Char.isDigit, tail.dropWhile Char.isDigit)
    | tail => ([], tail)
  !(whole.isEmpty && fraction.isEmpty) &&
    match rest with
    | [] => true
    | e :: tail =>
      let digits :=
        match tail with
        | '+' :: tail => tail
        | '-' :: tail => tail
        | tail => tail
      (e == 'e' || e == 'E') && !digits.isEmpty && digits.all Char.isDigit

/-- Whether a text writes a number, with an optional sign. -/
def isNumber (s : String) : Bool :=
  let unsigned :=
    match s.toList with
    | '+' :: rest => rest
    | '-' :: rest => rest
    | cs => cs
  ["inf", "infinity", "nan"].contains (lowerCase (String.ofList unsigned)) || isDecimal unsigned

/-- Reads a test.  Truth values and numbers that are no counts can be asked for, but are never
reported. -/
def ofText? (s : String) : Option Test :=
  if s = "true" ∨ s = "false" then some .never
  else
    match wholeNumber? s with
    | some n => some (.count n)
    | none =>
      if isNumber s then some .never
      else do return .text s (.ofExpr (← Pattern.Expr.ofText? s))

end Test

/-- A named value, and perhaps a test for it. -/
structure FieldRule where
  name : String
  test : Option Test
  deriving DecidableEq, Repr

/-- Reads a name, or a name and a test after an equals sign.  What follows another equals sign is
ignored. -/
def FieldRule.ofText? (s : String) : Option FieldRule :=
  match (s.toList.splitOn '=').map String.ofList with
  | name :: value :: _ => do return ⟨name, some (← Test.ofText? value)⟩
  | [name] => some ⟨name, none⟩
  | [] => none

/-! ### Directives -/

/-- A threshold for some reports. -/
structure Directive where
  /-- The beginning of the targets that are covered. -/
  target : String := ""
  span : Option String := none
  field : Option FieldRule := none
  threshold : Threshold
  deriving DecidableEq, Repr

namespace Directive

/-- Whether a directive may start with the character. -/
def canStart (c : Char) : Bool :=
  Text.isAlphanumeric c || c == '[' || c == '-' || c == ':' || c == '_'

/-- The bytes of `raw` from one position to another, if they are a text. -/
def cut? (raw : List UInt8) (start stop : Nat) : Option String :=
  (Text.decode ((raw.take stop).drop start)).toOption

/-- The threshold written at the end of `raw`, after a position; everything if nothing is there. -/
def thresholdFrom? (raw : List UInt8) (start : Nat) : Option Threshold := do
  let level ← cut? raw start raw.length
  if level.isEmpty then some (some .trace) else Threshold.ofText? level

/-- The number of bytes of some characters. -/
def width (cs : List Char) : Nat := (Text.bytes (String.ofList cs)).length

/-- Reads what follows the brackets, which is `cs` and starts at a position: the threshold. -/
def readTail? (raw : List UInt8) (start : Nat) : List Char → Option Threshold
  | [] => some (some .trace)
  | '=' :: _ => thresholdFrom? raw (start + 1)
  | _ => none

/-- Reads what the brackets hold, from a position on: the span, the value, and the threshold. -/
def readBrackets? (raw : List UInt8) (start : Nat) (cs : List Char) :
    Option (Option String × Option FieldRule × Threshold) := do
  let name := cs.takeWhile fun c => c != ']' && c != '\x7b'
  let stop := start + width name
  match cs.drop name.length with
  | ']' :: rest =>
    let span ← cut? raw start stop
    return (some span, none, ← readTail? raw (stop + 1) rest)
  | '\x7b' :: inner =>
    let field := inner.takeWhile (· != '\x7d')
    let stopField := stop + 1 + width field
    match field, inner.drop field.length with
    | _ :: _, '\x7d' :: ']' :: rest =>
      let span ← if name.isEmpty then some none else some <$> cut? raw start stop
      let rule ← FieldRule.ofText? (← cut? raw (stop + 1) stopField)
      return (span, some rule, ← readTail? raw (stopField + 2) rest)
    | _, _ => none
  | _ => none

/-- Reads one directive.  Positions are those in the text without the blanks at its ends, but parts
are cut out of the text with them; so only a directive that is just a target can have blanks in
front. -/
def ofText? (s : String) : Option Directive := do
  let raw := Text.bytes s
  let cs := Text.trimmed s.toList
  let first ← cs.head?
  if !canStart first then none
  else
    let head := cs.takeWhile fun c => c != '=' && c != '['
    match cs.drop head.length with
    | '=' :: _ =>
      return { target := ← cut? raw 0 (width head),
               threshold := ← thresholdFrom? raw (width head + 1) }
    | '[' :: rest =>
      let target ← cut? raw 0 (width head)
      let (span, field, threshold) ← readBrackets? raw (width head + 1) rest
      return { target, span, field, threshold }
    | _ =>
      match Threshold.ofText? s with
      | some threshold => return { threshold }
      | none => return { target := s, threshold := some .trace }

/-- Reads all directives of a text, or none if one of them is unreadable. -/
def list? (s : String) : Option (List Directive) :=
  let parts := (s.toList.splitOn ',').filter (!·.isEmpty)
  parts.mapM fun part => ofText? (String.ofList part)

/-- The directives of a text; an unreadable text shows warnings. -/
def list (s : String) : List Directive := (list? s).getD [{ threshold := some .warn }]

end Directive

end ClassDiagram.Log
