import ClassDiagram.Log.Gate

/-! # How reports are written

Three layouts: one line an event with its spans in front (`compact`), several lines an event with
its spans below (`pretty`), and one record an event (`json`).  The latter two also report when a
span is entered and left. -/

namespace ClassDiagram.Log

/-- The layouts. -/
inductive Format where
  | compact
  | pretty
  | json
  deriving DecidableEq, Repr

namespace Format

/-- The name of a layout. -/
def name : Format → String
  | .compact => "compact"
  | .pretty => "pretty"
  | .json => "json"

/-- All layouts. -/
def all : List Format := [.compact, .pretty, .json]

/-- The format of a name in any case.  Only letters of the basic Latin alphabet occur in the names,
so the case of others does not matter. -/
def ofName? (s : String) : Option Format := all.find? (·.name == lowerCase s)

/-- What is said of a name that is no format. -/
def unknownMessage (s : String) : String := "Unknown log format: " ++ s

/-- What is said when reports cannot be written in the format of that name. -/
def setupMessage (s : String) : String :=
  unknownMessage s ++ " (expected " ++ "|".intercalate (all.map name) ++ ")"

end Format

/-- What is written: a line of text or a record. -/
inductive Line where
  | text (s : String)
  | record (value : Json)

/-- The level in five columns, to the right. -/
def paddedLabel (level : Level) : String :=
  String.ofList (List.replicate (5 - level.label.length) ' ') ++ level.label

/-! ### Compact -/

/-- Values as `name=value`. -/
def compactFields (fields : Fields) : String :=
  " ".intercalate (fields.map fun (name, value) => name ++ "=" ++ value.text)

/-- A span with its values in braces. -/
def compactSpan (s : Span) : String :=
  s.name ++ (if s.fields.isEmpty then "" else "\x7b" ++ compactFields s.fields ++ "\x7d") ++ ":"

/-- The line of an event within the spans `around`, the outermost first. -/
def compactEvent (stamp : String) (around : List Span) (e : Event) : String :=
  stamp ++ " " ++ paddedLabel e.level ++ " "
    ++ (if around.isEmpty then "" else String.join (around.map compactSpan) ++ " ")
    ++ e.message ++ (if e.fields.isEmpty then "" else " " ++ compactFields e.fields)

/-! ### Pretty -/

/-- Values as `name: value`. -/
def prettyFields (fields : Fields) : String :=
  ", ".intercalate (fields.map fun (name, value) => name ++ ": " ++ value.text)

/-- The line of a span that an event happened in. -/
def prettySpan (s : Span) : String :=
  "    in " ++ s.target ++ "::" ++ s.name
    ++ (if s.fields.isEmpty then "" else " with " ++ prettyFields s.fields)

/-- The lines of an event within the spans `around`, the outermost first. -/
def prettyEvent (stamp : String) (around : List Span) (e : Event) : List String :=
  ["  " ++ stamp ++ " " ++ paddedLabel e.level ++ " " ++ e.target ++ ": " ++ e.message
      ++ (if e.fields.isEmpty then "" else ", " ++ prettyFields e.fields)]
    ++ around.reverse.map prettySpan ++ [""]

/-! ### Records -/

/-- A span as a record; its own name takes the place of a value called `name`. -/
def spanRecord (s : Span) : Json :=
  .object ((s.fields.filter (·.1 != "name")).map (fun (name, value) => (name, value.toJson))
    ++ [("name", .string s.name)])

/-- The record of an event; `innermost` is the span it belongs to, `around` are the active ones. -/
def eventRecord (innermost : Option Span) (around : List Span) (e : Event) : Json :=
  .object <|
    [("level", .string e.level.label), ("target", .string e.target),
      ("fields", .object (("message", .string e.message)
        :: e.fields.map fun (name, value) => (name, value.toJson)))]
    ++ (match innermost with
      | some s => [("span", spanRecord s), ("spans", .array (around.map spanRecord))]
      | none => [])

/-! ### Trees -/

/-- The event of entering or leaving a span. -/
def boundary (s : Span) (message : String) : Event :=
  { level := s.level, target := s.target, message }

/-- An event within the spans `around`, the outermost first. -/
def writeEvent (stamp : String) (around : List Span) (e : Event) : Format → List Line
  | .compact => [.text (compactEvent stamp around e)]
  | .pretty => (prettyEvent stamp around e).map .text
  | .json => [.record (eventRecord around.getLast? around e)]

/-- What is written when a span is entered, within the spans `around`. -/
def writeEnter (stamp : String) (around : List Span) (s : Span) : Format → List Line
  | .compact => []
  | .pretty => (prettyEvent stamp (around ++ [s]) (boundary s "enter")).map .text
  | .json => [.record (eventRecord (some s) (around ++ [s]) (boundary s "enter"))]

/-- What is written when a span is left.  In a record it is no longer among the active spans. -/
def writeExit (stamp : String) (around : List Span) (s : Span) : Format → List Line
  | .compact => []
  | .pretty => (prettyEvent stamp (around ++ [s]) (boundary s "exit")).map .text
  | .json => [.record (eventRecord (some s) around (boundary s "exit"))]

mutual

/-- The lines of a report within the spans `around`, the outermost first. -/
def Node.lines (format : Format) (stamp : String) (around : List Span) : Node → List Line
  | .event e => writeEvent stamp around e format
  | .span s inside =>
    writeEnter stamp around s format ++ linesAll format stamp (around ++ [s]) inside
      ++ writeExit stamp around s format
termination_by structural node => node

/-- The lines of several reports. -/
def linesAll (format : Format) (stamp : String) (around : List Span) : List Node → List Line
  | [] => []
  | node :: rest => node.lines format stamp around ++ linesAll format stamp around rest
termination_by structural nodes => nodes

end

/-- How reports are shown. -/
structure Settings where
  gate : Gate
  format : Format

/-- The lines of a report that are shown. -/
def Settings.lines (settings : Settings) (stamp : String) (node : Node) : List Line :=
  linesAll settings.format stamp [] (node.shown settings.gate none)

end ClassDiagram.Log
