import ClassDiagram.Log.Node

/-! # Thresholds

How much of what is reported is to be shown: nothing, or all levels from a given one on. -/

namespace ClassDiagram.Log

/-- The least level that is shown; `none` shows nothing. -/
abbrev Threshold := Option Level

namespace Threshold

/-- How many levels a threshold shows. -/
def verbosity : Threshold → Nat
  | some least => least.verbosity
  | none => 0

/-- Whether a report of the given level is shown. -/
def shows (t : Threshold) (level : Level) : Bool := decide (level.verbosity ≤ t.verbosity)

/-- The threshold that shows what one of two shows. -/
def join (a b : Threshold) : Threshold := if a.verbosity ≤ b.verbosity then b else a

/-- The threshold that shows what one of several shows. -/
def joinAll (ts : List Threshold) : Threshold := ts.foldl join none

end Threshold

/-- The letters of the basic Latin alphabet in lower case; other characters are kept. -/
def lowerCase (s : String) : String := String.ofList (s.toList.map Char.toLower)

/-- The number that a text of digits denotes; a plus may stand in front. -/
def wholeNumber? (s : String) : Option Nat :=
  let digits :=
    match s.toList with
    | '+' :: rest => rest
    | cs => cs
  if !digits.isEmpty ∧ digits.all Char.isDigit then
    some (digits.foldl (fun n c => n * 10 + (c.toNat - '0'.toNat)) 0)
  else none

namespace Threshold

/-- The threshold that shows the given number of levels. -/
def ofNat? : Nat → Option Threshold
  | 0 => some none
  | 1 => some (some .error)
  | 2 => some (some .warn)
  | 3 => some (some .info)
  | 4 => some (some .debug)
  | 5 => some (some .trace)
  | _ => none

/-- The threshold of a name, in any case, or of a number. -/
def ofText? (s : String) : Option Threshold :=
  match wholeNumber? s with
  | some n => ofNat? n
  | none =>
    match lowerCase s with
    | "trace" => some (some .trace)
    | "debug" => some (some .debug)
    | "info" => some (some .info)
    | "warn" => some (some .warn)
    | "error" => some (some .error)
    | "off" => some none
    | _ => none

end Threshold

end ClassDiagram.Log
