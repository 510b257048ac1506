import ClassDiagram.Diagram.Selection

/-! # Member lines

A member is one line of its type's block: its glyph, its type, its name, for a method the
parameters, and for a property a mark for each accessor that the filter allows. -/

namespace ClassDiagram

/-- The mark of a property that can be set. -/
def writeMark : String := " <font color=darkred><==</font>"

/-- The mark of a property that can be read. -/
def readMark : String := " <font color=darkgreen>==></font>"

/-- A field: its glyph, its type and its name. -/
def Field.line (f : Field) : String := f.visibility.glyph ++ f.type ++ " " ++ f.name

/-- A parameter: its type and its name. -/
def Parameter.text (p : Parameter) : String := p.type ++ " " ++ p.name

/-- A method: its glyph, its result, its name and its parameters. -/
def Method.line (m : Method) : String :=
  m.visibility.glyph ++ m.returns.getD "void" ++ " " ++ m.name ++ "("
    ++ ", ".intercalate (m.parameters.map Parameter.text) ++ ")"

/-- Whether there is an accessor that the filter allows. -/
def Filter.allowsAccessor (filter : Filter) : Option Accessor → Bool
  | some a => filter.allows a.visibility
  | none => false

/-- The marks of the accessors that the filter allows. -/
def Property.marks (filter : Filter) (p : Property) : String :=
  (if filter.allowsAccessor p.setter then writeMark else "")
    ++ (if filter.allowsAccessor p.getter then readMark else "")

/-- A property: its glyph, its type, its name and its marks. -/
def Property.line (filter : Filter) (p : Property) : String :=
  p.visibility.glyph ++ p.type ++ " " ++ p.name ++ p.marks filter

/-- The line of a member.  Members that the filter hides and methods that only serve a property have
none. -/
def Member.line? (filter : Filter) (m : Member) : Option String :=
  if filter.allows m.visibility then
    match m with
    | .field f => some f.line
    | .method m => if m.kind.isAccessor then none else some m.line
    | .property p => some (p.line filter)
  else none

/-- The lines between the braces of a block. -/
def Entry.body (filter : Filter) (e : Entry) : List String :=
  match e.shape with
  | .enumBlock => e.decl.enumMembers
  | .classBlock | .interfaceBlock => e.decl.members.filterMap (Member.line? filter)

end ClassDiagram
