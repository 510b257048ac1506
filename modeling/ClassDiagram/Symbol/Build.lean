import ClassDiagram.Symbol.Declaration

/-! # Building declarations

Declarations made step by step.  Lists grow at their end; anything else is replaced. -/

namespace ClassDiagram

namespace Field

/-- A public field. -/
def make (name : String) (type : TypeRef) : Field := { name, type }

end Field

namespace Method

/-- A public method that takes and returns nothing. -/
def make (name : String) : Method := { name }

/-- The method with a result. -/
def returning (m : Method) (type : TypeRef) : Method := { m with returns := some type }

/-- The method for another purpose. -/
def withKind (m : Method) (kind : MethodKind) : Method := { m with kind }

/-- The method with one more parameter. -/
def withParameter (m : Method) (type : TypeRef) (name : String) : Method :=
  { m with parameters := m.parameters ++ [{ type, name }] }

end Method

namespace Property

/-- A public property without accessors. -/
def make (name : String) (type : TypeRef) : Property := { name, type }

/-- The property with a getter. -/
def withGetter (p : Property) (visibility : Visibility) : Property :=
  { p with getter := some { visibility } }

/-- The property with a setter. -/
def withSetter (p : Property) (visibility : Visibility) : Property :=
  { p with setter := some { visibility } }

end Property

/-- The member with another visibility. -/
def Member.withVisibility (m : Member) (visibility : Visibility) : Member :=
  match m with
  | .field f => .field { f with visibility }
  | .method m => .method { m with visibility }
  | .property p => .property { p with visibility }

namespace TypeDecl

/-- A public type of which nothing else is known. -/
def make (name : TypeRef) (kind : TypeKind) : TypeDecl := { name, kind }

/-- The type with another visibility. -/
def withVisibility (t : TypeDecl) (visibility : Visibility) : TypeDecl := { t with visibility }

/-- The type as an abstract one. -/
def asAbstract (t : TypeDecl) : TypeDecl := { t with isAbstract := true }

/-- The type with a base class. -/
def withBase (t : TypeDecl) (base : TypeRef) : TypeDecl := { t with base := some base }

/-- The type with one more interface. -/
def withInterface (t : TypeDecl) (interface : TypeRef) : TypeDecl :=
  { t with interfaces := t.interfaces ++ [interface] }

/-- The type with one more member. -/
def withMember (t : TypeDecl) (member : Member) : TypeDecl :=
  { t with members := t.members ++ [member] }

/-- The type with one more enumeration member. -/
def withEnumMember (t : TypeDecl) (name : String) : TypeDecl :=
  { t with enumMembers := t.enumMembers ++ [name] }

end TypeDecl

end ClassDiagram
