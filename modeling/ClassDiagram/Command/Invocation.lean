import ClassDiagram.Command.Options
import ClassDiagram.Log.Layout
import ClassDiagram.Symbol.Visibility

/-! # Invocations

The options and subcommands of the program, and what they ask for. -/

namespace ClassDiagram.Command

/-- A task of the program.  An absent input or output, or a dash, is the standard one. -/
inductive Task where
  /-- Write one diagram. -/
  | render (input output : Option String) (filter : Filter) (theme : Option String)
  /-- Write a module that embeds all diagrams. -/
  | generate (input output : Option String) (theme : Option String)
  /-- Report what a diagram would show. -/
  | inspect (input : Option String) (filter : Filter) (json : Bool)
  deriving DecidableEq, Repr

/-- A task, and how the run tells about itself. -/
structure Invocation where
  task : Task
  verbose : Bool := false
  /-- Which reports are shown, unless the environment says otherwise. -/
  logLevel : String := "warn"
  /-- How reports are written, unless the environment says otherwise. -/
  logFormat : String := "compact"
  deriving DecidableEq, Repr

/-- Says what the program is. -/
def helpOption : OptionSpec := { long := "help", short := some 'h', effect := .help }

/-- The file that is read. -/
def inputOption : OptionSpec :=
  { long := "input", short := some 'i', value := some ⟨"INPUT", .path⟩ }

/-- The file that is written. -/
def outputOption : OptionSpec :=
  { long := "output", short := some 'o', value := some ⟨"OUTPUT", .path⟩ }

/-- The filter, by its title. -/
def visibilityOption : OptionSpec :=
  { long := "visibility", value := some ⟨"VISIBILITY", .oneOf (Filter.all.map Filter.title)⟩ }

/-- The theme, any text. -/
def themeOption : OptionSpec := { long := "theme", value := some ⟨"THEME", .any⟩ }

/-- Reports for programs instead of people. -/
def jsonOption : OptionSpec := { long := "json" }

/-- What stands before the subcommand. -/
def topGrammar : Grammar where
  options := [
    { long := "verbose", short := some 'v' },
    { long := "log-level",
      value := some ⟨"LOG_LEVEL", .oneOf ["trace", "debug", "info", "warn", "error", "off"]⟩ },
    { long := "log-format",
      value := some ⟨"LOG_FORMAT", .oneOf (Log.Format.all.map Log.Format.name)⟩ },
    { long := "version", short := some 'V', effect := .version },
    helpOption]
  subcommands := ["render", "generate", "inspect", "help"]

/-- What stands after a subcommand. -/
def grammarOf : String → Grammar
  | "render" => ⟨[inputOption, outputOption, visibilityOption, themeOption, helpOption], []⟩
  | "generate" => ⟨[inputOption, outputOption, themeOption, helpOption], []⟩
  | _ => ⟨[inputOption, visibilityOption, jsonOption, helpOption], []⟩

/-- The filter that was chosen. -/
def Given.filter (g : Given) : Filter :=
  ((g.value? "visibility").bind fun title => Filter.all.find? (·.title == title)).getD
    .publicOrInternal

/-- The task that a subcommand and its options stand for. -/
def taskOf (name : String) (g : Given) : Task :=
  match name with
  | "render" => .render (g.value? "input") (g.value? "output") g.filter (g.value? "theme")
  | "generate" => .generate (g.value? "input") (g.value? "output") (g.value? "theme")
  | _ => .inspect (g.value? "input") g.filter (g.has "json")

/-- The help that is asked for by a subcommand: of the program, or of one subcommand. -/
def helpOn : List String → Halt
  | [] => .help
  | name :: rest =>
    if topGrammar.subcommands.contains name then
      match rest with
      | [] => .help
      | next :: _ => .usage (.unrecognizedSubcommand next)
    else .usage (.unrecognizedSubcommand name)

/-- Reads the arguments of a subcommand. -/
def readTask (name : String) (arguments : List String) : Except Halt Task := do
  if name = "help" then throw (helpOn arguments)
  let (g, _) ← readArguments (grammarOf name) {} arguments
  let g ← g.settle
  return taskOf name g

/-- Reads all arguments.  A subcommand's own arguments are judged before a pending option that
stands in front of it. -/
def Invocation.ofArguments (arguments : List String) : Except Halt Invocation := do
  let (g, subcommand) ← readArguments topGrammar {} arguments
  match subcommand with
  | some (name, rest) =>
    let task ← readTask name rest
    let g ← g.settle
    return {
      task
      verbose := g.has "verbose"
      logLevel := (g.value? "log-level").getD "warn"
      logFormat := (g.value? "log-format").getD "compact" }
  | none =>
    let g ← g.settle
    throw (.usage (if g.options.isEmpty then .nothingGiven else .subcommandMissing))

end ClassDiagram.Command
