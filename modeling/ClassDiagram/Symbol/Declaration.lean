import ClassDiagram.Symbol.Kind
import ClassDiagram.Symbol.Visibility

/-! # Declarations

The declared types of a program with their members.  A type is referred to by its full display name,
which is compared and printed as it is. -/

namespace ClassDiagram

/-- The full display name of a type. -/
abbrev TypeRef := String

/-- A field of a type. -/
structure Field where
  name : String
  visibility : Visibility := .pub
  type : TypeRef
  deriving DecidableEq, Repr

/-- A parameter of a method. -/
structure Parameter where
  type : TypeRef
  name : String
  deriving DecidableEq, Repr

/-- A method of a type. -/
structure Method where
  name : String
  visibility : Visibility := .pub
  kind : MethodKind := .ordinary
  /-- The type of the result; `none` if the method returns nothing. -/
  returns : Option TypeRef := none
  parameters : List Parameter := []
  deriving DecidableEq, Repr

/-- A getter or setter. -/
structure Accessor where
  visibility : Visibility := .pub
  deriving DecidableEq, Repr

/-- A property of a type. -/
structure Property where
  name : String
  visibility : Visibility := .pub
  type : TypeRef
  getter : Option Accessor := none
  setter : Option Accessor := none
  deriving DecidableEq, Repr

/-- A member of a type. -/
inductive Member where
  | field (field : Field)
  | method (method : Method)
  | property (property : Property)
  deriving DecidableEq, Repr

namespace Member

/-- The name of a member. -/
def name : Member → String
  | .field f => f.name
  | .method m => m.name
  | .property p => p.name

/-- The visibility of a member. -/
def visibility : Member → Visibility
  | .field f => f.visibility
  | .method m => m.visibility
  | .property p => p.visibility

end Member

/-- A declared type. -/
structure TypeDecl where
  /-- The name is the identity of the type. -/
  name : TypeRef
  kind : TypeKind := .classType
  isAbstract : Bool := false
  visibility : Visibility := .pub
  members : List Member := []
  base : Option TypeRef := none
  /-- All implemented interfaces, also those that other interfaces bring in. -/
  interfaces : List TypeRef := []
  enumMembers : List String := []
  deriving DecidableEq, Repr

namespace TypeDecl

/-- Whether the type lists the given interface. -/
def implements (t : TypeDecl) (name : String) : Bool := t.interfaces.contains name

/-- How the type is drawn, unless it is left out. -/
def shape? (t : TypeDecl) : Option Shape := t.kind.shape?

/-- The words that open the type's block, unless it is left out. -/
def keyword? (t : TypeDecl) : Option String := t.shape?.map (·.keyword t.isAbstract)

end TypeDecl

end ClassDiagram
