import ClassDiagram.Decimal.Layout
import ClassDiagram.Text.Position

/-! # Errors of loading

Why declarations could not be loaded.  The report of a refused document arrives as a text that ends
with its place; `LoadError.ofReport` keeps the message in front of the last mention of a place. -/

namespace ClassDiagram

/-- Why nothing was loaded: a refused document, an invalid declaration, or a failing input. -/
inductive LoadError where
  | parse (message : String) (line column : Nat)
  | invalidSymbol (message : String)
  | io (reason : String)
  deriving DecidableEq, Repr

namespace LoadError

/-- The wording of an error. -/
def message : LoadError → String
  | .parse m line column =>
    "Parse error: " ++ m ++ " at line " ++ Decimal.digitsText line ++ ", column "
      ++ Decimal.digitsText column
  | .invalidSymbol m => "Invalid symbol: " ++ m
  | .io reason => "IO error: " ++ reason

/-- The part of a list before the last occurrence of `mark`, if there is one. -/
def beforeLast? (mark : List Char) : List Char → Option (List Char)
  | [] => if mark.isEmpty then some [] else none
  | c :: rest =>
    match beforeLast? mark rest with
    | some kept => some (c :: kept)
    | none => if mark.isPrefixOf (c :: rest) then some [] else none

/-- What introduces the place in a report. -/
def placeMark : String := " at line "

/-- The text of a report: the message and, unless the line is zero, the place. -/
def reportText (message : String) (place : Text.Position) : String :=
  if place.line = 0 then message
  else
    message ++ placeMark ++ Decimal.digitsText place.line ++ " column "
      ++ Decimal.digitsText place.column

/-- The message of a report's text: what stands before the last mention of a place. -/
def reportMessage (report : String) : String :=
  match beforeLast? placeMark.toList report.toList with
  | some kept => String.ofList kept
  | none => report

/-- The error for a refused document. -/
def ofReport (message : String) (place : Text.Position) : LoadError :=
  .parse (reportMessage (reportText message place)) place.line place.column

/-- The refusal of a declaration without a name, with `count` declarations before it. -/
def nameless (count : Nat) : LoadError :=
  .invalidSymbol ("type #" ++ Decimal.digitsText count ++ " has an empty name")

end LoadError

end ClassDiagram
