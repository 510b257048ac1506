import ClassDiagram.Command.Files
import ClassDiagram.Command.Invocation
import ClassDiagram.Command.Report
import ClassDiagram.Embed.SourceModule
import ClassDiagram.Log.Narration

/-! # Running a command

A run reads its input, loads the graph, and only then writes.  Its result (`Task.execute`) does not
know about reports; what is reported (`Task.notices`) is worked out beside it. -/

namespace ClassDiagram.Command

/-- What a run can see. -/
structure World where
  input : List UInt8 := []
  files : Files := {}
  /-- The environment variables. -/
  environment : List (String × String) := []

/-- What a run leaves behind. -/
structure Outcome where
  exit : Nat
  output : String := ""
  errors : List Log.Line := []
  files : Files

/-! ### Results -/

/-- The path that an option names, unless it is the standard stream. -/
def namedPath? (option : Option String) : Option String := option.filter (· != "-")

/-- The text of a task's input, or why it cannot be had. -/
def readInput (world : World) (input : Option String) : Except String String :=
  match namedPath? input with
  | some path =>
    match world.files.readText (Path.ofString path) with
    | .ok text => .ok text
    | .error e => .error ("Failed to read input file " ++ path ++ ": " ++ e.message)
  | none =>
    match Files.asText world.input with
    | .ok text => .ok text
    | .error e => .error ("Failed to read from stdin: " ++ e.message)

/-- The graph of an input text. -/
def loadInput (text : String) : Except String Graph :=
  match Graph.ofText text with
  | .ok g => .ok g
  | .error e => .error ("Failed to load symbol graph: " ++ e.message)

/-- What a task has written: the standard output and the files. -/
structure Written where
  output : String
  files : Files

/-- The complaint about a file that cannot be written. -/
def writeFailure (path : String) (e : FileError) : String :=
  "Failed to write output file " ++ path ++ ": " ++ e.message

/-- Writes a text to where an option says. -/
def writeOutput (files : Files) (output : Option String) (text : String) : Except String Written :=
  match namedPath? output with
  | some path =>
    match files.write (Path.ofString path) (Text.bytes text) with
    | .ok files => .ok ⟨"", files⟩
    | .error e => .error (writeFailure path e)
  | none => .ok ⟨text, files⟩

namespace Task

/-- Where the graph comes from. -/
def input : Task → Option String
  | .render input _ _ _ => input
  | .generate input _ _ => input
  | .inspect input _ _ => input

/-- Where the result goes; an inspection is always shown. -/
def output : Task → Option String
  | .render _ output _ _ => output
  | .generate _ output _ => output
  | .inspect _ _ _ => none

/-- The text that a task makes of a graph. -/
def result (g : Graph) : Task → String
  | .render _ _ filter theme => ClassDiagram.render (theme.getD defaultTheme) g filter
  | .generate _ _ theme => SourceModule.write (renderAll (theme.getD defaultTheme) g)
  | .inspect _ filter json =>
    let report := ClassDiagram.inspect g filter
    if json then report.toJson.pretty ++ "\n" else Text.unlines report.lines

/-- What a task writes, or why it fails.  Nothing is written unless the graph could be loaded. -/
def execute (task : Task) (world : World) : Except String Written := do
  let text ← readInput world task.input
  let g ← loadInput text
  writeOutput world.files task.output (task.result g)

end Task

/-! ### Notices -/

/-- Something that a run tells about itself. -/
inductive Notice where
  /-- A line that is shown only on request. -/
  | verbose (line : String)
  | log (node : Log.Node)

/-- What a task reports while it makes its result. -/
def Task.resultNotices (g : Graph) (task : Task) : List Notice :=
  let size := (Text.bytes (task.result g)).length
  match task with
  | .render _ _ filter theme =>
    [.log (Log.renderNode (theme.getD defaultTheme) g filter),
      .verbose
        ("Rendered " ++ filter.title ++ " diagram (" ++ Decimal.digitsText size ++ " bytes)")]
  | .generate _ _ theme =>
    Filter.all.map (fun filter => .log (Log.renderNode (theme.getD defaultTheme) g filter))
      ++ [.log (.event { level := .info, target := Log.Target.command,
                         message := "Generated diagram module",
                         fields := [("bytes", .count size)] }),
        .verbose ("Generated module with " ++ Decimal.digitsText Filter.all.length ++ " constants")]
  | .inspect _ filter _ => (Log.surveyNodes g filter).map .log

/-- Everything that a task reports, up to its failure if it fails. -/
def Task.notices (task : Task) (world : World) : List Notice :=
  match readInput world task.input with
  | .error _ => []
  | .ok text =>
    [.verbose ("Read " ++ Decimal.digitsText (Text.bytes text).length ++ " bytes of input"),
      .log (Log.loadNode text)]
    ++ match loadInput text with
      | .error _ => []
      | .ok g =>
        .log (.event { level := .debug, target := Log.Target.command,
                       message := "Loaded symbol graph",
                       fields := [("type_count", .count g.size)] })
          :: task.resultNotices g

/-- The lines of a notice. -/
def Notice.lines (verbose : Bool) (settings : Option Log.Settings) (stamp : String) :
    Notice → List Log.Line
  | .verbose line => if verbose then [.text line] else []
  | .log node =>
    match settings with
    | some settings => settings.lines stamp node
    | none => []

/-! ### Runs -/

/-- The version that the program reports. -/
def version : String := "0.1.0"

/-- How reports are shown, or the name of a format that does not exist.  The environment goes before
the options. -/
def logSettings (invocation : Invocation) (environment : List (String × String)) :
    Except String Log.Settings :=
  let level := ((environment.lookup "TYPEUML_LOG_LEVEL").or (environment.lookup "RUST_LOG")).getD
    invocation.logLevel
  let format := (environment.lookup "TYPEUML_LOG_FORMAT").getD invocation.logFormat
  match Log.Format.ofName? format with
  | some f => .ok ⟨.ofDirectives (Log.Directive.list level), f⟩
  | none => .error format

/-- Runs an invocation.  Reports are marked with `stamp`. -/
def Invocation.run (invocation : Invocation) (stamp : String) (world : World) : Outcome :=
  let settings := logSettings invocation world.environment
  let warnings : List Log.Line :=
    match settings with
    | .ok _ => []
    | .error format =>
      [.text ("Warning: Failed to initialize logging: " ++ Log.Format.setupMessage format)]
  let notices : List Notice := .verbose ("Typeuml v" ++ version) :: invocation.task.notices world
  let told := notices.flatMap (·.lines invocation.verbose settings.toOption stamp)
  match invocation.task.execute world with
  | .ok written =>
    { exit := 0, output := written.output, errors := warnings ++ told, files := written.files }
  | .error message =>
    let failure : Log.Line := .text ("Error: " ++ message)
    { exit := 1, errors := warnings ++ told ++ [failure], files := world.files }

/-- Runs the program with the given arguments. -/
def run (arguments : List String) (stamp : String) (world : World) : Outcome :=
  match Invocation.ofArguments arguments with
  | .ok invocation => invocation.run stamp world
  | .error .version => { exit := 0, output := "typeuml " ++ version ++ "\n", files := world.files }
  | .error .help => { exit := 0, output := about ++ "\n", files := world.files }
  | .error (.usage e) => { exit := 2, errors := [.text e.message], files := world.files }

end ClassDiagram.Command
