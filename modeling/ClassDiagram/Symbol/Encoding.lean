import ClassDiagram.Json.Printer
import ClassDiagram.Symbol.Declaration

/-! # Declarations as JSON

The written form of declarations.  A member says in its entry `kind` what it is; entries that hold
nothing (an absent type, an empty list of members) are left out, except a method's parameters. -/

namespace ClassDiagram

/-- An entry that is written only if there is a value. -/
def optionalEntry (name : String) (value : Option Json) : List (String × Json) :=
  match value with
  | some v => [(name, v)]
  | none => []

/-- An entry that is written only if the list has items. -/
def listEntry (name : String) (items : List Json) : List (String × Json) :=
  if items.isEmpty then [] else [(name, .array items)]

/-- A parameter as an object. -/
def Parameter.toJson (p : Parameter) : Json :=
  .object [("type", .string p.type), ("name", .string p.name)]

/-- An accessor as an object. -/
def Accessor.toJson (a : Accessor) : Json :=
  .object [("visibility", .string a.visibility.name)]

/-- The entries of a field besides its tag. -/
def Field.entries (f : Field) : List (String × Json) :=
  [("name", .string f.name), ("visibility", .string f.visibility.name), ("type", .string f.type)]

/-- The entries of a method besides its tag. -/
def Method.entries (m : Method) : List (String × Json) :=
  [("name", .string m.name), ("visibility", .string m.visibility.name),
    ("method_kind", .string m.kind.name)]
  ++ optionalEntry "return_type" (m.returns.map .string)
  ++ [("parameters", .array (m.parameters.map Parameter.toJson))]

/-- The entries of a property besides its tag. -/
def Property.entries (p : Property) : List (String × Json) :=
  [("name", .string p.name), ("visibility", .string p.visibility.name), ("type", .string p.type)]
  ++ optionalEntry "getter" (p.getter.map Accessor.toJson)
  ++ optionalEntry "setter" (p.setter.map Accessor.toJson)

/-- A member as an object that starts with its tag. -/
def Member.toJson : Member → Json
  | .field f => .object (("kind", .string "field") :: f.entries)
  | .method m => .object (("kind", .string "method") :: m.entries)
  | .property p => .object (("kind", .string "property") :: p.entries)

/-- A type as an object. -/
def TypeDecl.toJson (t : TypeDecl) : Json :=
  .object <|
    [("name", .string t.name), ("kind", .string t.kind.name), ("abstract", .bool t.isAbstract),
      ("visibility", .string t.visibility.name)]
    ++ listEntry "members" (t.members.map Member.toJson)
    ++ optionalEntry "base" (t.base.map .string)
    ++ listEntry "interfaces" (t.interfaces.map .string)
    ++ listEntry "enum_members" (t.enumMembers.map .string)

/-- The document that lists the given declarations. -/
def documentJson (types : List TypeDecl) : Json :=
  .object [("types", .array (types.map TypeDecl.toJson))]

end ClassDiagram
