import ClassDiagram.Diagram.Edge
import ClassDiagram.Diagram.MemberLine
import ClassDiagram.Text.Lines

/-! # Diagrams

A diagram is a theme and one block for each drawn type, directly followed by the edges that leave
the type.  `render` draws a catalog and writes the diagram's lines. -/

namespace ClassDiagram

/-- The block of one type and its edges. -/
structure Block where
  keyword : String
  name : TypeRef
  body : List String
  edges : List Edge
  deriving DecidableEq, Repr

namespace Block

/-- The line that opens a block. -/
def header (b : Block) : String := b.keyword ++ " " ++ b.name ++ " \x7b"

/-- The line that closes a block. -/
def footer : String := "\x7d"

/-- The lines after a block, one for each edge. -/
def edgeLines (b : Block) : List String := b.edges.map (·.line b.keyword)

/-- All lines of a block. -/
def lines (b : Block) : List String := b.header :: b.body ++ footer :: b.edgeLines

end Block

/-- A theme and the blocks in order. -/
structure Diagram where
  theme : String
  blocks : List Block
  deriving DecidableEq, Repr

/-- The theme of diagrams for which none is chosen. -/
def defaultTheme : String := "cyborg-outline"

namespace Diagram

/-- The lines before the blocks. -/
def opening (theme : String) : List String := ["@startuml", "!theme " ++ theme, ""]

/-- The line after the blocks. -/
def ending : String := "@enduml"

/-- All lines of a diagram. -/
def lines (d : Diagram) : List String :=
  opening d.theme ++ d.blocks.flatMap Block.lines ++ [ending]

/-- The diagram as a text. -/
def text (d : Diagram) : String := Text.unlines d.lines

end Diagram

variable {κ : Type} [Catalog κ]

/-- The block of a drawn type. -/
def Entry.block (catalog : κ) (selection : Selection) (e : Entry) : Block where
  keyword := e.keyword
  name := e.name
  body := e.body selection.filter
  edges := e.edges catalog selection

/-- The diagram of the declarations that the filter allows. -/
def draw (theme : String) (catalog : κ) (filter : Filter) : Diagram :=
  let selection := Selection.of catalog filter
  { theme, blocks := selection.entries.map (Entry.block catalog selection) }

/-- The text of the diagram. -/
def render (theme : String) (catalog : κ) (filter : Filter) : String :=
  (draw theme catalog filter).text

/-- A text for each filter. -/
structure Variants where
  publicOrInternal : String
  publicOnly : String
  deriving DecidableEq, Repr

namespace Variants

/-- The text of a filter. -/
def get (v : Variants) : Filter → String
  | .publicOrInternal => v.publicOrInternal
  | .publicOnly => v.publicOnly

/-- The texts with their filters, the widest first. -/
def toList (v : Variants) : List (Filter × String) := Filter.all.map fun f => (f, v.get f)

end Variants

/-- The diagrams under all filters. -/
def renderAll (theme : String) (catalog : κ) : Variants where
  publicOrInternal := render theme catalog .publicOrInternal
  publicOnly := render theme catalog .publicOnly

end ClassDiagram
