import ClassDiagram.Json.Shape

/-! # Visibility

How far a declaration can be seen, the glyph that a diagram puts in front of it, and the filters
that decide which declarations are drawn. -/

namespace ClassDiagram

/-- The access level of a type, a member or an accessor. -/
inductive Visibility where
  | priv
  | protInternal
  | prot
  | internal
  | internalOrProt
  | pub
  /-- Any level that has no name here. -/
  | unknown
  deriving DecidableEq, Repr

namespace Visibility

/-- The word for a level. -/
def name : Visibility → String
  | .priv => "private"
  | .protInternal => "protected_internal"
  | .prot => "protected"
  | .internal => "internal"
  | .internalOrProt => "internal_or_protected"
  | .pub => "public"
  | .unknown => "unknown"

/-- The levels that have a name of their own. -/
def named : List Visibility := [.priv, .protInternal, .prot, .internal, .internalOrProt, .pub]

/-- The level of a name; names that mean nothing here give the unknown level. -/
def ofName (name : String) : Visibility := (named.find? (·.name == name)).getD .unknown

/-- Words lead back to their levels. -/
theorem ofName_name (v : Visibility) : ofName v.name = v := by
  cases v <;> decide

/-- The mark in front of a member line. -/
def glyph : Visibility → String
  | .priv => "-"
  | .prot | .protInternal => "#"
  | .internal | .internalOrProt => "~"
  | .pub => "+"
  | .unknown => ""

end Visibility

instance : Json.Vocabulary Visibility where
  name := Visibility.name
  ofName name := .ok (Visibility.ofName name)

/-- Which declarations a diagram shows. -/
inductive Filter where
  | publicOrInternal
  | publicOnly
  deriving DecidableEq, Repr

namespace Filter

/-- All filters, the widest first. -/
def all : List Filter := [.publicOrInternal, .publicOnly]

/-- The word for a filter in documents. -/
def name : Filter → String
  | .publicOrInternal => "public_or_internal"
  | .publicOnly => "public_only"

/-- The word for a filter in texts for people. -/
def title : Filter → String
  | .publicOrInternal => "public-or-internal"
  | .publicOnly => "public-only"

/-- Whether a declaration of the given visibility is shown. -/
def allows : Filter → Visibility → Bool
  | .publicOrInternal, v => v == .pub || v == .internal || v == .internalOrProt
  | .publicOnly, v => v == .pub

/-- What the narrow filter shows, the wide one shows too. -/
theorem allows_mono {v : Visibility} (h : publicOnly.allows v = true) :
    publicOrInternal.allows v = true := by
  cases v <;> simp_all [allows]

end Filter

instance : Json.Vocabulary Filter where
  name := Filter.name
  ofName name :=
    match Filter.all.find? (·.name == name) with
    | some f => .ok f
    | none => .error (.unknownVariant name (Filter.all.map Filter.name))

end ClassDiagram
