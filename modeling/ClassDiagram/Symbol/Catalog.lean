import ClassDiagram.Symbol.Declaration

/-! # Catalogs

Anything that lists declarations and finds one by its name.  A name may be declared more than once;
the first declaration is the one that is found. -/

namespace ClassDiagram

/-- Anything that lists and finds declarations. -/
class Catalog (κ : Type) where
  /-- The declarations in order. -/
  types : κ → List TypeDecl
  /-- The declaration of a name. -/
  find? : κ → String → Option TypeDecl

/-- The first declaration of a name. -/
def firstDecl? (types : List TypeDecl) (name : String) : Option TypeDecl :=
  types.find? (·.name == name)

instance : Catalog (List TypeDecl) where
  types := id
  find? := firstDecl?

/-- The declaration that is found under a name is the first one of that name. -/
def Catalog.FirstMatch {κ : Type} [Catalog κ] (catalog : κ) : Prop :=
  ∀ name, find? catalog name = firstDecl? (types catalog) name

theorem firstMatch_list (decls : List TypeDecl) : Catalog.FirstMatch decls := fun _ => rfl

end ClassDiagram
