import ClassDiagram.Json.Reader.Record
import ClassDiagram.Symbol.MemberDecoding

/-! # Declarations from JSON

The readers of members, of declared types and of whole documents. -/

namespace ClassDiagram

open Json (Slot Record Reader present)

/-- What has been read of a member: its tag, and its other entries in reverse order. -/
structure MemberDraft where
  tag : Option MemberTag := none
  entries : List (String × Json) := []

/-- Reads the entry of a member whose key is `name`. -/
def MemberDraft.entry (depth : Nat) (draft : MemberDraft) (name : String) : Reader MemberDraft :=
  if name = "kind" then
    if draft.tag.isSome then Reader.refuseShape (.duplicateField name)
    else do
      Reader.colon
      return { draft with tag := some (← Reader.identifier) }
  else do
    Reader.colon
    return { draft with entries := (name, ← Reader.value depth) :: draft.entries }

/-- The tag of a member and the rest of it: an object of its other entries, or a list of the items
after the tag. -/
def Member.readTagged (depth : Nat) : Reader (MemberTag × Json) :=
  Reader.placing do
    match ← Reader.token with
    | '[' =>
      Reader.entering depth fun depth =>
        Reader.closing (do
          if ← Reader.nextItem true then
            let tag ← Reader.identifier
            return (tag, .array (← Reader.items false (Reader.value depth)))
          else Reader.refuseShape (.missingField "kind")) Reader.endList
    | '{' =>
      Reader.entering depth fun depth =>
        Reader.closing (do
          let draft ← Reader.foldEntries (MemberDraft.entry depth) {}
          let tag ← Reader.ofExcept (present "kind" draft.tag)
          return (tag, .object draft.entries.reverse)) Reader.endObject
    | _ => Reader.mismatch "internally tagged enum MemberSymbol"

/-- A member.  A refusal of one of its fields has no place. -/
def Member.read (depth : Nat) : Reader Member := do
  let (tag, rest) ← Member.readTagged depth
  Reader.ofExcept (Member.decode tag rest)

/-- What has been read of a type. -/
structure TypeDraft where
  name : Option TypeRef := none
  kind : Option TypeKind := none
  isAbstract : Option Bool := none
  visibility : Option Visibility := none
  members : Option (List Member) := none
  base : Option (Option TypeRef) := none
  interfaces : Option (List TypeRef) := none
  enumMembers : Option (List String) := none

/-- A string. -/
def readText : Reader String := Reader.text "a string"

/-- The fields of a type; `depth` is the number of brackets that their values may open. -/
def TypeDecl.record (depth : Nat) : Record Reader TypeDraft TypeDecl where
  title := "TypeSymbol"
  slots := [
    .of "name" true (·.name) (fun d v => { d with name := some v }) readText,
    .of "kind" false (·.kind) (fun d v => { d with kind := some v }) (Reader.word depth),
    .of "abstract" false (·.isAbstract) (fun d v => { d with isAbstract := some v })
      Reader.boolean,
    .of "visibility" false (·.visibility) (fun d v => { d with visibility := some v })
      (Reader.word depth),
    .of "members" false (·.members) (fun d v => { d with members := some v })
      (Reader.list depth Member.read),
    .of "base" false (·.base) (fun d v => { d with base := some v }) (Reader.optional readText),
    .of "interfaces" false (·.interfaces) (fun d v => { d with interfaces := some v })
      (Reader.list depth fun _ => readText),
    .of "enum_members" false (·.enumMembers) (fun d v => { d with enumMembers := some v })
      (Reader.list depth fun _ => readText)]
  blank := {}
  finish d := do
    let name ← present "name" d.name
    return {
      name
      kind := d.kind.getD .classType
      isAbstract := d.isAbstract.getD false
      visibility := d.visibility.getD .pub
      members := d.members.getD []
      base := d.base.getD none
      interfaces := d.interfaces.getD []
      enumMembers := d.enumMembers.getD [] }

/-- A declared type. -/
def TypeDecl.read (depth : Nat) : Reader TypeDecl := Reader.record depth TypeDecl.record

/-- What has been read of a document. -/
structure DocumentDraft where
  types : Option (List TypeDecl) := none

/-- A document has one field, the list of types. -/
def documentRecord (depth : Nat) : Record Reader DocumentDraft (List TypeDecl) where
  title := "SymbolGraphDocument"
  slots := [
    .of "types" false (·.types) (fun d v => { d with types := some v })
      (Reader.list depth TypeDecl.read)]
  blank := {}
  finish d := return d.types.getD []

/-- The declarations of a document. -/
def readDocument (depth : Nat) : Reader (List TypeDecl) := Reader.record depth documentRecord

end ClassDiagram
