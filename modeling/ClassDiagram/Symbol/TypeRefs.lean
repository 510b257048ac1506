import ClassDiagram.Firsts
import ClassDiagram.Symbol.Declaration

/-! # Sets of type references

References are ordered by their code points, which is the order of their UTF-8 bytes. -/

namespace ClassDiagram.TypeRefs

/-- The references in order, each once. -/
def sorted (refs : List TypeRef) : List TypeRef :=
  firsts id (refs.mergeSort fun a b => decide (a ≤ b))

end ClassDiagram.TypeRefs
