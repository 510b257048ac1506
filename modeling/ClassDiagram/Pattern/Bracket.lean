import ClassDiagram.Pattern.Escape

/-! # Sets in brackets

Brackets enclose characters, ranges, named sets and other sets in brackets.  After a circumflex all
other characters are meant.  `&&`, `--` and `~~` combine the sets on both sides of them, from left
to right. -/

namespace ClassDiagram.Pattern

/-- A set and how deeply its description is nested. -/
structure Part where
  set : CharSet
  depth : Nat := 0

namespace Part

/-- The greatest depth of some parts. -/
def deepest (ps : List Part) : Nat := ps.foldl (fun n p => max n p.depth) 0

/-- The union of some parts. -/
def unionAll : List Part → Part
  | [] => ⟨.empty, 0⟩
  | [p] => p
  | ps => ⟨.unionAll (ps.map Part.set), deepest ps + 1⟩

end Part

/-- Operations on sets. -/
inductive SetOperation where
  | intersection
  | difference
  | symmetricDifference

/-- The result of an operation. -/
def SetOperation.apply (op : SetOperation) (a b : Part) : Part :=
  let set :=
    match op with
    | .intersection => a.set.intersection b.set
    | .difference => a.set.difference b.set
    | .symmetricDifference => a.set.symmetricDifference b.set
  ⟨set, max a.depth b.depth + 1⟩

/-- A bracket that is not closed yet. -/
structure OpenBracket where
  negated : Bool
  /-- What stands on the left side of the last operation, and the operation. -/
  left : Option (Part × SetOperation) := none
  /-- What was read since then, the last part first. -/
  parts : List Part := []

namespace OpenBracket

/-- The bracket with another part. -/
def add (b : OpenBracket) (p : Part) : OpenBracket := { b with parts := p :: b.parts }

/-- What the bracket holds. -/
def content (b : OpenBracket) : Part :=
  let right := Part.unionAll b.parts.reverse
  match b.left with
  | some (left, op) => op.apply left right
  | none => right

/-- The bracket after an operator. -/
def operate (b : OpenBracket) (op : SetOperation) : OpenBracket :=
  { b with left := some (b.content, op), parts := [] }

/-- The set of a bracket.  All other characters can only be meant if all characters can. -/
def close? (f : Flags) (b : OpenBracket) : Option Part :=
  let inner := b.content
  if b.negated then
    if f.unicode then some ⟨inner.set.complement, inner.depth + 1⟩ else none
  else some ⟨inner.set, inner.depth + 1⟩

end OpenBracket

/-- Reads the hyphens at the beginning of a bracket, which stand for themselves. -/
def readHyphens? (f : Flags) (b : OpenBracket) (cs : List Char) :
    Option (OpenBracket × List Char) :=
  match h : significant f cs with
  | [] => none
  | '-' :: rest => do
    have : rest.length < cs.length := by
      have := length_significant_le f cs
      rw [h, List.length_cons] at this
      omega
    let set ← rangeSet? f '-' '-'
    readHyphens? f (b.add ⟨set, 0⟩) rest
  | cs => some (b, cs)
termination_by cs.length

/-- Reads what follows an opening bracket: a circumflex, hyphens, or a closing bracket that stands
for itself. -/
def readOpening? (f : Flags) (cs : List Char) : Option (OpenBracket × List Char) := do
  let (negated, cs) :=
    match significant f cs with
    | '^' :: rest => (true, rest)
    | cs => (false, cs)
  let (b, cs) ← readHyphens? f { negated } cs
  match cs with
  | ']' :: rest =>
    if b.parts.isEmpty then do
      let set ← rangeSet? f ']' ']'
      return (b.add ⟨set, 0⟩, rest)
    else return (b, cs)
  | cs => return (b, cs)

/-- Reads a named set `:name:]` or `:^name:]`, of which the first bracket has been read. -/
def readName? : List Char → Option ((CharSet × Bool) × List Char)
  | ':' :: cs =>
    let (negated, cs) :=
      match cs with
      | '^' :: rest => (true, rest)
      | cs => (false, cs)
    let name := cs.takeWhile (· != ':')
    match cs.drop name.length with
    | ':' :: ']' :: rest => do
      let set ← CharSet.named? (String.ofList name)
      return ((set, negated), rest)
    | _ => none
  | _ => none

/-- Reads an element of a bracket. -/
def readElement? (f : Flags) : List Char → Option (Atom × List Char)
  | [] => none
  | '\\' :: rest => readEscape? f rest
  | c :: rest => some (.char c false, rest)

/-- Reads an element, or a range between two of them. -/
def readRange? (f : Flags) (cs : List Char) : Option (Part × List Char) := do
  let (first, rest) ← readElement? f cs
  let alone (rest : List Char) : Option (Part × List Char) :=
    match first with
    | .char c _ => do return (⟨← rangeSet? f c c, 0⟩, rest)
    | .shorthand s negated => do return (⟨← shorthandSet? f s negated, 0⟩, rest)
    | .edge _ | .word _ => none
  match significant f rest with
  | [] => none
  | '-' :: after =>
    if [some ']', some '-'].contains (glimpse f after) then alone ('-' :: after)
    else
      match first, ← readElement? f (significant f after) with
      | .char low _, (.char high _, rest) => return (⟨← rangeSet? f low high, 0⟩, rest)
      | _, _ => none
  | rest => alone rest

/-- What reading a piece of a bracket leads to. -/
inductive BracketStep where
  | finished (p : Part)
  /-- The bracket that is open now, and those around it. -/
  | going (b : OpenBracket) (around : List OpenBracket)

/-- Reads a piece of a bracket, which is not at its end. -/
def stepBracket? (f : Flags) (b : OpenBracket) (around : List OpenBracket) :
    List Char → Option (BracketStep × List Char)
  | '[' :: rest =>
    match readName? rest with
    | some ((set, negated), rest) => do
      let set ← namedSet? f set negated
      return (.going (b.add ⟨set, 0⟩) around, rest)
    | none => do
      let (inner, rest) ← readOpening? f rest
      return (.going inner (b :: around), rest)
  | ']' :: rest => do
    let p ← b.close? f
    match around with
    | [] => return (.finished p, rest)
    | outer :: around => return (.going (outer.add p) around, rest)
  | '&' :: '&' :: rest => some (.going (b.operate .intersection) around, rest)
  | '-' :: '-' :: rest => some (.going (b.operate .difference) around, rest)
  | '~' :: '~' :: rest => some (.going (b.operate .symmetricDifference) around, rest)
  | cs => do
    let (p, rest) ← readRange? f cs
    return (.going (b.add p) around, rest)

/-- Reads the rest of a bracket and of those around it.  Each piece takes at least one character. -/
def readPieces? (f : Flags) (b : OpenBracket) (around : List OpenBracket) (cs : List Char) :
    Option (Part × List Char) :=
  match stepBracket? f b around (significant f cs) with
  | none => none
  | some (.finished p, rest) => some (p, rest)
  | some (.going b around, rest) =>
    if rest.length < cs.length then readPieces? f b around rest else none
termination_by cs.length

/-- Reads a set, of which the opening bracket has been read. -/
def readBracket? (f : Flags) (cs : List Char) : Option (Part × List Char) := do
  let (b, rest) ← readOpening? f cs
  readPieces? f b [] rest

end ClassDiagram.Pattern
