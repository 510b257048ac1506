import ClassDiagram.Diagram.Document

/-! # The inspection report

What a diagram would show, without drawing it: for each drawn type its block's opening words, the
number of its member lines and its edges. -/

namespace ClassDiagram

/-- What would be drawn of one type. -/
structure TypeSummary where
  name : String
  keyword : String
  memberLines : Nat
  /-- What each edge says of the type. -/
  edges : List String
  deriving DecidableEq, Repr

/-- What would be drawn of all types. -/
structure Report where
  filter : Filter
  /-- The number of declarations. -/
  declared : Nat
  /-- The number of types that are drawn. -/
  rendered : Nat
  types : List TypeSummary
  deriving DecidableEq, Repr

variable {κ : Type} [Catalog κ]

/-- The summary of a drawn type. -/
def Entry.summary (catalog : κ) (selection : Selection) (e : Entry) : TypeSummary where
  name := e.name
  keyword := e.keyword
  memberLines := (e.body selection.filter).length
  edges := (e.edges catalog selection).map Edge.clause

/-- The report on a catalog. -/
def inspect (catalog : κ) (filter : Filter) : Report :=
  let selection := Selection.of catalog filter
  { filter
    declared := (Catalog.types catalog).length
    rendered := selection.size
    types := selection.entries.map (Entry.summary catalog selection) }

namespace Report

/-- A type's line, and below it a line for each of its edges. -/
def summaryLines (s : TypeSummary) : List String :=
  ("  " ++ s.keyword ++ " " ++ s.name ++ " (" ++ Decimal.digitsText s.memberLines ++ " members)")
    :: s.edges.map ("    " ++ ·)

/-- The report for people. -/
def lines (r : Report) : List String :=
  (Decimal.digitsText r.rendered ++ " of " ++ Decimal.digitsText r.declared
      ++ " declared types rendered (" ++ r.filter.title ++ ")")
    :: r.types.flatMap summaryLines

/-- A type's summary for programs. -/
def summaryJson (s : TypeSummary) : Json :=
  .object [("name", .string s.name), ("keyword", .string s.keyword),
    ("member_lines", .count s.memberLines), ("edges", .array (s.edges.map .string))]

/-- The report for programs. -/
def toJson (r : Report) : Json :=
  .object [("filter", .string r.filter.title), ("declared", .count r.declared),
    ("rendered", .count r.rendered), ("types", .array (r.types.map summaryJson))]

end Report

end ClassDiagram
