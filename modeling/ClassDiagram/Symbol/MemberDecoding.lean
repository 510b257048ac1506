import ClassDiagram.Json.Decoder
import ClassDiagram.Symbol.Declaration

/-! # Members from JSON

A member is first read as a whole, because the entry `kind`, which says what the others mean, may
come last.  Its fields are then taken from the values that were read.  Each record has a draft in
which every field may still be missing. -/

namespace ClassDiagram

open Json (Slot Record Decoder present)

/-- What a member says that it is. -/
inductive MemberTag where
  | field
  | method
  | property
  deriving DecidableEq, Repr

namespace MemberTag

/-- The word for a tag. -/
def name : MemberTag → String
  | .field => "field"
  | .method => "method"
  | .property => "property"

/-- All tags. -/
def all : List MemberTag := [.field, .method, .property]

end MemberTag

instance : Json.Vocabulary MemberTag where
  name := MemberTag.name
  ofName name :=
    match MemberTag.all.find? (·.name == name) with
    | some tag => .ok tag
    | none => .error (.unknownVariant name (MemberTag.all.map MemberTag.name))

/-- What is known of a field. -/
structure FieldDraft where
  name : Option String := none
  visibility : Option Visibility := none
  type : Option TypeRef := none

/-- The fields of a field. -/
def Field.record : Record Decoder FieldDraft Field where
  title := "FieldSymbol"
  slots := [
    .of "name" true (·.name) (fun d v => { d with name := some v }) Decoder.text,
    .of "visibility" false (·.visibility) (fun d v => { d with visibility := some v })
      (Decoder.word true),
    .of "type" true (·.type) (fun d v => { d with type := some v }) Decoder.text]
  blank := {}
  finish d := do
    let name ← present "name" d.name
    let type ← present "type" d.type
    return { name, visibility := d.visibility.getD .pub, type }

/-- What is known of a parameter. -/
structure ParameterDraft where
  type : Option TypeRef := none
  name : Option String := none

/-- The fields of a parameter. -/
def Parameter.record : Record Decoder ParameterDraft Parameter where
  title := "Parameter"
  slots := [
    .of "type" true (·.type) (fun d v => { d with type := some v }) Decoder.text,
    .of "name" true (·.name) (fun d v => { d with name := some v }) Decoder.text]
  blank := {}
  finish d := do
    let type ← present "type" d.type
    let name ← present "name" d.name
    return { type, name }

/-- What is known of a method. -/
structure MethodDraft where
  name : Option String := none
  visibility : Option Visibility := none
  kind : Option MethodKind := none
  returns : Option (Option TypeRef) := none
  parameters : Option (List Parameter) := none

/-- The fields of a method. -/
def Method.record : Record Decoder MethodDraft Method where
  title := "MethodSymbol"
  slots := [
    .of "name" true (·.name) (fun d v => { d with name := some v }) Decoder.text,
    .of "visibility" false (·.visibility) (fun d v => { d with visibility := some v })
      (Decoder.word true),
    .of "method_kind" false (·.kind) (fun d v => { d with kind := some v }) (Decoder.word true),
    .of "return_type" false (·.returns) (fun d v => { d with returns := some v })
      (Decoder.optional Decoder.text),
    .of "parameters" false (·.parameters) (fun d v => { d with parameters := some v })
      (Decoder.list (Decoder.record Parameter.record))]
  blank := {}
  finish d := do
    let name ← present "name" d.name
    return {
      name
      visibility := d.visibility.getD .pub
      kind := d.kind.getD .ordinary
      returns := d.returns.getD none
      parameters := d.parameters.getD [] }

/-- What is known of an accessor. -/
structure AccessorDraft where
  visibility : Option Visibility := none

/-- The only field of an accessor. -/
def Accessor.record : Record Decoder AccessorDraft Accessor where
  title := "Accessor"
  slots := [
    .of "visibility" false (·.visibility) (fun d v => { d with visibility := some v })
      (Decoder.word true)]
  blank := {}
  finish d := return { visibility := d.visibility.getD .pub }

/-- What is known of a property. -/
structure PropertyDraft where
  name : Option String := none
  visibility : Option Visibility := none
  type : Option TypeRef := none
  getter : Option (Option Accessor) := none
  setter : Option (Option Accessor) := none

/-- The fields of a property. -/
def Property.record : Record Decoder PropertyDraft Property where
  title := "PropertySymbol"
  slots := [
    .of "name" true (·.name) (fun d v => { d with name := some v }) Decoder.text,
    .of "visibility" false (·.visibility) (fun d v => { d with visibility := some v })
      (Decoder.word true),
    .of "type" true (·.type) (fun d v => { d with type := some v }) Decoder.text,
    .of "getter" false (·.getter) (fun d v => { d with getter := some v })
      (Decoder.optional (Decoder.record Accessor.record)),
    .of "setter" false (·.setter) (fun d v => { d with setter := some v })
      (Decoder.optional (Decoder.record Accessor.record))]
  blank := {}
  finish d := do
    let name ← present "name" d.name
    let type ← present "type" d.type
    return {
      name
      visibility := d.visibility.getD .pub
      type
      getter := d.getter.getD none
      setter := d.setter.getD none }

/-- The member that a tag and the other entries describe. -/
def Member.decode : MemberTag → Decoder Member
  | .field => .field <$> Decoder.record Field.record
  | .method => .method <$> Decoder.record Method.record
  | .property => .property <$> Decoder.record Property.record

end ClassDiagram
