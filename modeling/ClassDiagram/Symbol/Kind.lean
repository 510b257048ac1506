import ClassDiagram.Json.Shape

/-! # Kinds of declarations

What a declared type or method is, and the shape in which a diagram draws a type.  Only classes,
interfaces and enumerations have a shape; the other kinds are left out of diagrams. -/

namespace ClassDiagram

/-- What a declared type is. -/
inductive TypeKind where
  | classType
  | interfaceType
  | enumType
  | structType
  | delegateType
  /-- Any kind that has no name here. -/
  | unknown
  deriving DecidableEq, Repr

/-- How a type is drawn. -/
inductive Shape where
  | classBlock
  | interfaceBlock
  | enumBlock
  deriving DecidableEq, Repr

namespace TypeKind

/-- The word for a kind. -/
def name : TypeKind → String
  | .classType => "class"
  | .interfaceType => "interface"
  | .enumType => "enum"
  | .structType => "struct"
  | .delegateType => "delegate"
  | .unknown => "unknown"

/-- The kinds that have a name of their own. -/
def named : List TypeKind := [.classType, .interfaceType, .enumType, .structType, .delegateType]

/-- The kind of a name; names that mean nothing here give the unknown kind. -/
def ofName (name : String) : TypeKind := (named.find? (·.name == name)).getD .unknown

/-- Words lead back to their kinds. -/
theorem ofName_name (k : TypeKind) : ofName k.name = k := by
  cases k <;> decide

/-- The shape of a kind, unless it is left out. -/
def shape? : TypeKind → Option Shape
  | .classType => some .classBlock
  | .interfaceType => some .interfaceBlock
  | .enumType => some .enumBlock
  | .structType | .delegateType | .unknown => none

end TypeKind

/-- The words that open a block; only classes can be abstract. -/
def Shape.keyword : Shape → (isAbstract : Bool) → String
  | .classBlock, true => "abstract class"
  | .classBlock, false => "class"
  | .interfaceBlock, _ => "interface"
  | .enumBlock, _ => "enum"

instance : Json.Vocabulary TypeKind where
  name := TypeKind.name
  ofName name := .ok (TypeKind.ofName name)

/-- What a method is for. -/
inductive MethodKind where
  | ordinary
  | constructor
  | propertyGet
  | propertySet
  /-- Any kind that has no name here. -/
  | other
  deriving DecidableEq, Repr

namespace MethodKind

/-- The word for a kind. -/
def name : MethodKind → String
  | .ordinary => "ordinary"
  | .constructor => "constructor"
  | .propertyGet => "property_get"
  | .propertySet => "property_set"
  | .other => "other"

/-- The kinds that have a name of their own. -/
def named : List MethodKind := [.ordinary, .constructor, .propertyGet, .propertySet]

/-- The kind of a name; names that mean nothing here give the other kind. -/
def ofName (name : String) : MethodKind := (named.find? (·.name == name)).getD .other

/-- Words lead back to their kinds. -/
theorem ofName_name (k : MethodKind) : ofName k.name = k := by
  cases k <;> decide

/-- Whether the method only serves a property. -/
def isAccessor : MethodKind → Bool
  | .propertyGet | .propertySet => true
  | .ordinary | .constructor | .other => false

end MethodKind

instance : Json.Vocabulary MethodKind where
  name := MethodKind.name
  ofName name := .ok (MethodKind.ofName name)

end ClassDiagram
