/-! # First occurrences

The reduction of a list to the first of those elements that share a key. -/

namespace ClassDiagram

variable {α β : Type} [DecidableEq β]

/-- The elements whose key is neither in `seen` nor that of an earlier element. -/
def firstsFrom (key : α → β) (seen : List β) : List α → List α
  | [] => []
  | a :: rest =>
    if key a ∈ seen then firstsFrom key seen rest else a :: firstsFrom key (key a :: seen) rest

/-- The first element of each key, in order. -/
def firsts (key : α → β) (as : List α) : List α := firstsFrom key [] as

end ClassDiagram
