import ClassDiagram.Symbol.Load

/-! # Files

The files that a command can see: names and contents, and the directories.  A path is followed part
by part, and each part but the last has to be a directory.  Reading and writing fail like the
system's own operations do. -/

namespace ClassDiagram

/-- Why a file cannot be read or written. -/
inductive FileError where
  | notFound
  | notDirectory
  | isDirectory
  | nameTooLong
  | notText
  deriving DecidableEq, Repr

/-- The system's words for an error. -/
def FileError.message : FileError → String
  | .notFound => "No such file or directory (os error 2)"
  | .notDirectory => "Not a directory (os error 20)"
  | .isDirectory => "Is a directory (os error 21)"
  | .nameTooLong => "File name too long (os error 36)"
  | .notText => "stream did not contain valid UTF-8"

/-- A place among the files: the names of the directories from the root, and its own name. -/
abbrev Place := List String

/-- Where a part of a path leads from a directory. -/
def Place.step (place : Place) (part : String) : Place :=
  if part = "." then place else if part = ".." then place.dropLast else place ++ [part]

/-- A written path. -/
structure Path where
  /-- Whether it starts at the root and not in the working directory. -/
  absolute : Bool
  /-- What stands between its slashes: names, and the words `.` and `..`. -/
  parts : List String
  /-- Whether it ends with a slash, so that only a directory can be meant. -/
  ofDirectory : Bool
  /-- The number of bytes that it is written with. -/
  size : Nat
  deriving DecidableEq, Repr

/-- Takes a written path apart; several slashes are like one. -/
def Path.ofString (s : String) : Path where
  absolute := s.toList.head? == some '/'
  parts := ((s.toList.splitOn '/').map String.ofList).filter (· != "")
  ofDirectory := s.toList.getLast? == some '/'
  size := (Text.bytes s).length

/-- Where a path starts. -/
def Path.start (home : Place) (p : Path) : Place := if p.absolute then [] else home

/-- Where a path leads if each of its parts can be followed. -/
def Path.place (home : Place) (p : Path) : Place := p.parts.foldl Place.step (p.start home)

/-- Files with their contents, and directories. -/
structure Files where
  /-- The working directory. -/
  home : Place := []
  contents : List (Place × List UInt8) := []
  directories : List Place := []
  deriving DecidableEq

namespace Files

/-- The largest number of bytes in a name. -/
def nameLimit : Nat := 255

/-- The largest number of bytes in a path. -/
def pathLimit : Nat := 4095

/-- The bytes of the file at a place. -/
def get? (fs : Files) (place : Place) : Option (List UInt8) := fs.contents.lookup place

/-- Whether there is a directory: the working directory, a declared one, or one on the way to
something that is there. -/
def isDirectory (fs : Files) (place : Place) : Bool :=
  place.isPrefixOf fs.home || fs.directories.any place.isPrefixOf
    || fs.contents.any fun (file, _) => place.isPrefixOf file && place != file

/-- Follows a part of a path to another directory. -/
def enter (fs : Files) (place : Place) (part : String) : Except FileError Place :=
  let next := place.step part
  if nameLimit < (Text.bytes part).length then .error .nameTooLong
  else if fs.isDirectory next then .ok next
  else if (fs.get? next).isSome then .error .notDirectory
  else .error .notFound

/-- Follows all parts of a path but the last, which is returned with the directory it is in. -/
def follow (fs : Files) (p : Path) : Except FileError (Place × Option String) :=
  if p.size = 0 then .error .notFound
  else if pathLimit < p.size then .error .nameTooLong
  else do
    let place ← p.parts.dropLast.foldlM fs.enter (p.start fs.home)
    return (place, p.parts.getLast?)

/-- The bytes of a file. -/
def read (fs : Files) (p : Path) : Except FileError (List UInt8) := do
  match ← fs.follow p with
  | (_, none) => throw .isDirectory
  | (place, some part) =>
    let next := place.step part
    if nameLimit < (Text.bytes part).length then throw .nameTooLong
    else if fs.isDirectory next then throw .isDirectory
    else
      match fs.get? next with
      | some content => if p.ofDirectory then throw .notDirectory else return content
      | none => throw .notFound

/-- Bytes as text. -/
def asText (content : List UInt8) : Except FileError String :=
  match Text.decode content with
  | .ok text => .ok text
  | .error _ => .error .notText

/-- The text of a file. -/
def readText (fs : Files) (p : Path) : Except FileError String := do
  asText (← fs.read p)

/-- Puts a file with the given content at a place. -/
def put (fs : Files) (place : Place) (content : List UInt8) : Files :=
  let others := fs.contents.filter fun (file, _) => file != place
  { fs with contents := (place, content) :: others }

/-- Replaces the content of a file, or creates it in a directory that is there.  A slash at the end
is refused before the name is looked at. -/
def write (fs : Files) (p : Path) (content : List UInt8) : Except FileError Files := do
  match ← fs.follow p with
  | (_, none) => throw .isDirectory
  | (place, some part) =>
    let next := place.step part
    if p.ofDirectory then throw .isDirectory
    else if nameLimit < (Text.bytes part).length then throw .nameTooLong
    else if fs.isDirectory next then throw .isDirectory
    else return fs.put next content

end Files

/-- Loads the graph of a document that is a file. -/
def Graph.ofFile (fs : Files) (p : Path) : Except LoadError Graph :=
  match fs.readText p with
  | .ok text => Graph.ofText text
  | .error e => .error (.io e.message)

end ClassDiagram
