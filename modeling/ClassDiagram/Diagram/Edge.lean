import ClassDiagram.Diagram.Selection
import ClassDiagram.Firsts

/-! # Edges

The edges that leave a drawn type.  The base class comes first, then the interfaces in reported
order, each once.  Only drawn types are targets, never the type itself, and an interface is left out
if another interface of the type brings it in anyway. -/

namespace ClassDiagram

/-- How a type depends on another one. -/
inductive EdgeKind where
  | extension
  | implementation
  deriving DecidableEq, Repr

/-- The verb of an edge. -/
def EdgeKind.word : EdgeKind → String
  | .extension => "extends"
  | .implementation => "implements"

/-- An edge between two drawn types. -/
structure Edge where
  source : TypeRef
  target : TypeRef
  kind : EdgeKind
  deriving DecidableEq, Repr

/-- What an edge says of its source. -/
def Edge.clause (e : Edge) : String := e.kind.word ++ " " ++ e.target

/-- The line of an edge, which names its source like the source's block. -/
def Edge.line (e : Edge) (keyword : String) : String :=
  keyword ++ " " ++ e.source ++ " " ++ e.clause

variable {κ : Type} [Catalog κ]

/-- Whether an interface of `t` is listed by another interface of `t`, drawn or not. -/
def TypeDecl.implies (catalog : κ) (t : TypeDecl) (interface : TypeRef) : Bool :=
  t.interfaces.any fun other =>
    other != interface && other != t.name
      && (Catalog.find? catalog other).any (·.implements interface)

/-- The base class to which an edge is drawn. -/
def TypeDecl.drawnBase? (selection : Selection) (t : TypeDecl) : Option TypeRef :=
  t.base.filter fun base => base != t.name && selection.contains base

/-- The drawn interfaces that a type lists, each once. -/
def TypeDecl.drawnInterfaces (selection : Selection) (t : TypeDecl) : List TypeRef :=
  firsts id (t.interfaces.filter fun i => i != t.name && selection.contains i)

/-- The edges that leave a drawn type; an enumeration has none. -/
def Entry.edges (catalog : κ) (selection : Selection) (e : Entry) : List Edge :=
  match e.shape with
  | .enumBlock => []
  | .classBlock | .interfaceBlock =>
    let bases := (e.decl.drawnBase? selection).toList
    let interfaces :=
      (e.decl.drawnInterfaces selection).filter fun i => !e.decl.implies catalog i
    bases.map (⟨e.name, ·, .extension⟩) ++ interfaces.map (⟨e.name, ·, .implementation⟩)

end ClassDiagram
