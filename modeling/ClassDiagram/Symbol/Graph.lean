import ClassDiagram.Symbol.Catalog
import ClassDiagram.Symbol.Encoding
import ClassDiagram.Symbol.LoadError
import Std.Data.HashMap

/-! # Symbol graphs

The declarations of a program in order, with an index from names to first declarations.  A graph
never holds a declaration without a name. -/

namespace ClassDiagram

/-- Declarations in order, found by their names. -/
structure Graph where
  decls : Array TypeDecl := #[]
  /-- The position of the first declaration of each name. -/
  index : Std.HashMap String Nat := ∅

namespace Graph

/-- The graph without declarations. -/
def empty : Graph := {}

/-- The number of declarations. -/
def size (g : Graph) : Nat := g.decls.size

/-- Whether nothing is declared. -/
def isEmpty (g : Graph) : Bool := g.decls.isEmpty

/-- The declarations in order. -/
def toList (g : Graph) : List TypeDecl := g.decls.toList

/-- The first declaration of a name, by the index. -/
def find? (g : Graph) (name : String) : Option TypeDecl := do
  let i ← g.index[name]?
  g.decls[i]?

/-- Adds a declaration at the end.  A repeated name keeps its first position. -/
def add (g : Graph) (t : TypeDecl) : Except LoadError Graph :=
  if t.name.isEmpty then .error (.nameless g.size)
  else .ok {
    decls := g.decls.push t
    index := if g.index.contains t.name then g.index else g.index.insert t.name g.size }

/-- Adds declarations one after the other, up to the first that is refused. -/
def addAll (g : Graph) : List TypeDecl → Except LoadError Graph
  | [] => .ok g
  | t :: rest => do
    let g ← g.add t
    g.addAll rest

/-- The graph of all declarations that have a name. -/
def ofList (types : List TypeDecl) : Graph :=
  types.foldl (fun g t => match g.add t with | .ok g' => g' | .error _ => g) empty

/-- The document of the graph. -/
def toJson (g : Graph) : String := (documentJson g.toList).pretty

end Graph

instance : Catalog Graph where
  types := Graph.toList
  find? := Graph.find?

end ClassDiagram
