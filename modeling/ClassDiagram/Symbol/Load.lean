import ClassDiagram.Symbol.Decoding
import ClassDiagram.Symbol.Graph

/-! # Loading

Documents are delivered as a whole or as a stream that may fail.  The same reader runs on a slice of
the whole or on the stream; each tells in its own way where a document is refused. -/

namespace ClassDiagram

/-- The error for a fault. -/
def LoadError.ofFault : Json.Fault → LoadError
  | .unreadable reason => .io reason
  | .refused cause none => .ofReport cause.message ⟨0, 0⟩
  | .refused cause (some place) => .ofReport cause.message place

variable {κ α : Type}

/-- Reads a document from a source. -/
def readFrom [Json.Source κ] (body : Nat → Json.Reader α) (source : κ) : Except LoadError α :=
  match (Json.Reader.document body).run source with
  | .ok a _ => .ok a
  | .error fault _ => .error (.ofFault fault)

/-- Reads a document that is a text. -/
def readString (body : Nat → Json.Reader α) (text : String) : Except LoadError α :=
  readFrom body (Json.Slice.start (Text.bytes text))

/-- Takes a value apart that has been read before. -/
def decodeValue (decoder : Json.Decoder α) (v : Json) : Except LoadError α :=
  match decoder v with
  | .ok a => .ok a
  | .error cause => .error (.ofFault (.refused cause none))

/-- The list of declarations that a text holds, without the document around it. -/
def readTypeList (text : String) : Except LoadError (List TypeDecl) :=
  readString (fun depth => Json.Reader.list depth TypeDecl.read) text

namespace Graph

/-- Loads the graph of a document that is a text. -/
def ofText (text : String) : Except LoadError Graph := do
  let types ← readString readDocument text
  empty.addAll types

/-- Loads the graph of a document that arrives as a stream. -/
def ofStream (input : List UInt8) (ending : Json.Ending) : Except LoadError Graph := do
  let types ← readFrom readDocument (Json.Stream.start input ending)
  empty.addAll types

end Graph

end ClassDiagram
