import ClassDiagram.Json.Basic
import ClassDiagram.Text.Quoted

/-! # What a run reports

A run leaves a tree behind: events, and spans that hold what was reported while they were active.
Each has a level, the part of the program that reports it (its target), and named values. -/

namespace ClassDiagram.Log

/-- How much a report matters. -/
inductive Level where
  | trace
  | debug
  | info
  | warn
  | error
  deriving DecidableEq, Repr

namespace Level

/-- The number of levels that matter at least as much. -/
def verbosity : Level → Nat
  | .error => 1
  | .warn => 2
  | .info => 3
  | .debug => 4
  | .trace => 5

/-- The word for a level. -/
def label : Level → String
  | .trace => "TRACE"
  | .debug => "DEBUG"
  | .info => "INFO"
  | .warn => "WARN"
  | .error => "ERROR"

end Level

/-- A reported value. -/
inductive Value where
  | count (n : Nat)
  /-- A text that is shown as it is. -/
  | plain (s : String)
  /-- A text that is shown in quotes where lines are written for people. -/
  | quoted (s : String)

namespace Value

/-- The value where lines are written for people. -/
def text : Value → String
  | .count n => Decimal.digitsText n
  | .plain s => s
  | .quoted s => Text.quoted s

/-- The value in a record. -/
def toJson : Value → Json
  | .count n => .count n
  | .plain s => .string s
  | .quoted s => .string s

end Value

/-- Named values in the order in which they are shown. -/
abbrev Fields := List (String × Value)

/-- Something that happened. -/
structure Event where
  level : Level
  target : String
  message : String
  fields : Fields := []

/-- Something that takes its time. -/
structure Span where
  level : Level
  target : String
  name : String
  fields : Fields := []

/-- An event, or a span with what was reported inside of it. -/
inductive Node where
  | event (event : Event)
  | span (span : Span) (inside : List Node)

end ClassDiagram.Log
