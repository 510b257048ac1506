import ClassDiagram.Command.Run

/-! # The program

Gathers what a run can see, runs it, and puts down what it leaves behind.  Everything else is
decided by `ClassDiagram.Command.run`. -/

namespace ClassDiagram.Program

open ClassDiagram.Command

/-- All that is left in a stream. -/
partial def readToEnd (stream : IO.FS.Stream) (done : ByteArray) : IO ByteArray := do
  let chunk ← stream.read 65536
  if chunk.isEmpty then return done else readToEnd stream (done ++ chunk)

/-- How the first `n` parts of a path are written. -/
def written (path : Path) (n : Nat) : String :=
  (if path.absolute then "/" else "") ++ "/".intercalate (path.parts.take n)

/-- Adds what is found on the way along a path to the files that a run can see. -/
def look (files : Files) (path : Path) : IO Files := do
  let here ← IO.currentDir
  let mut files := files
  for k in List.range path.parts.length do
    let place := { path with parts := path.parts.take (k + 1) }.place files.home
    if ← (here / written path (k + 1)).isDir then
      files := { files with directories := place :: files.directories }
    else
      try
        let content ← IO.FS.readBinFile (written path (k + 1))
        files := files.put place content.toList
      catch _ => break
  return files

/-- The world in front of a run of the given task. -/
def worldOf (task : Task) : IO World := do
  let home := (Path.ofString (← IO.currentDir).toString).parts
  let paths := [task.input, task.output].filterMap namedPath?
  let files ← paths.foldlM (fun files path => look files (Path.ofString path)) { home }
  let input ←
    if (namedPath? task.input).isNone then readToEnd (← IO.getStdin) .empty else pure .empty
  let names := ["TYPEUML_LOG_LEVEL", "RUST_LOG", "TYPEUML_LOG_FORMAT"]
  let environment ← names.filterMapM fun name => do
    return (← IO.getEnv name).map fun value => (name, value)
  return { input := input.toList, files, environment }

/-- Puts a line on the error stream. -/
def printLine : Log.Line → IO Unit
  | .text s => IO.eprintln s
  | .record value => IO.eprintln value.compact

/-- Puts down what a run has left behind; the exit status. -/
def settle (task : Option Task) (outcome : Outcome) : IO UInt32 := do
  outcome.errors.forM printLine
  let stdout ← IO.getStdout
  stdout.putStr outcome.output
  stdout.flush
  if outcome.exit = 0 then
    if let some path := task.bind fun task => namedPath? task.output then
      let place := (Path.ofString path).place outcome.files.home
      let content := (outcome.files.get? place).getD []
      try
        IO.FS.writeBinFile path content.toByteArray
      catch _ =>
        printLine (.text ("Error: " ++ writeFailure path .notFound))
        return 1
  return outcome.exit.toUInt32

end ClassDiagram.Program

open ClassDiagram in
/-- Runs the program on the arguments that it was started with. -/
def main (arguments : List String) : IO UInt32 := do
  let stamp := toString (← IO.monoMsNow) ++ "ms"
  match Command.Invocation.ofArguments arguments with
  | .ok invocation =>
    let world ← Program.worldOf invocation.task
    Program.settle (some invocation.task) (invocation.run stamp world)
  | .error _ => Program.settle none (Command.run arguments stamp {})
