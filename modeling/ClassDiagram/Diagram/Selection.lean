import ClassDiagram.Symbol.Catalog

/-! # Selection

The declarations that one diagram draws: of each name the first declaration decides, and it is drawn
if its kind has a shape and the filter allows its visibility. -/

namespace ClassDiagram

/-- A declaration that is drawn, and how. -/
structure Entry where
  decl : TypeDecl
  shape : Shape
  deriving DecidableEq, Repr

namespace Entry

/-- The name of the drawn type. -/
def name (e : Entry) : TypeRef := e.decl.name

/-- The words that open the block of the entry. -/
def keyword (e : Entry) : String := e.shape.keyword e.decl.isAbstract

end Entry

/-- The entry of a declaration, unless it is not drawn. -/
def TypeDecl.entry? (filter : Filter) (t : TypeDecl) : Option Entry :=
  match t.shape? with
  | some shape => if filter.allows t.visibility then some ⟨t, shape⟩ else none
  | none => none

/-- The drawn types under a filter: their names, for the question whether a target is drawn, and
their entries in order of first declaration. -/
structure Selection where
  filter : Filter
  names : List TypeRef
  entries : List Entry

namespace Selection

/-- What the walk over the declarations has gathered: the names it has met, and the names and the
entries of those that are drawn. -/
structure Gathered where
  seen : List TypeRef := []
  names : List TypeRef := []
  entries : List Entry := []

/-- One more declaration.  The first one of a name decides, also when it is not drawn. -/
def Gathered.add (filter : Filter) (g : Gathered) (t : TypeDecl) : Gathered :=
  if t.name ∈ g.seen then g
  else
    match t.entry? filter with
    | none => { g with seen := t.name :: g.seen }
    | some e =>
      { seen := t.name :: g.seen, names := t.name :: g.names, entries := g.entries ++ [e] }

variable {κ : Type} [Catalog κ]

/-- The declarations of a catalog that are drawn. -/
def of (catalog : κ) (filter : Filter) : Selection :=
  let gathered := (Catalog.types catalog).foldl (Gathered.add filter) {}
  ⟨filter, gathered.names, gathered.entries⟩

/-- Whether a type of that name is drawn. -/
def contains (s : Selection) (name : String) : Bool := s.names.contains name

/-- The number of drawn types. -/
def size (s : Selection) : Nat := s.entries.length

end Selection

end ClassDiagram
