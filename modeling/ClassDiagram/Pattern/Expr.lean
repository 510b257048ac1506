import ClassDiagram.Pattern.CharSet

/-! # Patterns

A pattern describes texts.  Where it leaves a choice, one way is preferred to the others.  Patterns
are kept in a simple form: `Expr.concat` and `Expr.alternation` flatten what they are given, join
neighbouring characters, turn alternatives of one character into a set, and take out what all
alternatives start with. -/

namespace ClassDiagram.Pattern

/-- A condition on a place in a text. -/
inductive Look where
  | textStart
  | textEnd
  /-- After a line feed, or where the text starts. -/
  | lineStart
  /-- Before a line feed, or where the text ends. -/
  | lineEnd
  /-- After a line break of any kind; a carriage return with a line feed is one break. -/
  | anyLineStart
  /-- Before a line break of any kind. -/
  | anyLineEnd
  | wordBoundary
  | notWordBoundary
  | wordStart
  | wordEnd
  deriving DecidableEq, Repr

/-- How often something is repeated. -/
inductive Repetition where
  | optional
  | any
  | atLeastOnce
  deriving DecidableEq, Repr

/-- Descriptions of texts. -/
inductive Expr where
  /-- The empty text. -/
  | empty
  /-- The given characters, at least one. -/
  | literal (cs : List Char)
  /-- A character of a set. -/
  | set (s : CharSet)
  /-- Nothing, where a condition holds. -/
  | look (l : Look)
  /-- What is in the group with the given number. -/
  | group (index : Nat) (body : Expr)
  /-- Repetitions of a pattern; `eager` prefers more of them. -/
  | repeated (repetition : Repetition) (eager : Bool) (body : Expr)
  | seq (first second : Expr)
  /-- One of two, where the first is preferred. -/
  | either (first second : Expr)
  deriving DecidableEq, Repr

namespace Expr

/-- A character of a set; a set of one character is that character. -/
def ofSet (s : CharSet) : Expr :=
  match s.only? with
  | some c => .literal [c]
  | none => .set s

/-! ### Lengths -/

/-- The least number of characters that a pattern takes; none if a set without characters is in the
way. -/
def least? : Expr → Option Nat
  | .empty | .look _ => some 0
  | .literal cs => some cs.length
  | .set s => if s.ranges.isEmpty then none else some 1
  | .group _ p => p.least?
  | .repeated .atLeastOnce _ p => p.least?
  | .repeated _ _ p => p.least?.map fun _ => 0
  | .seq p q => do return (← p.least?) + (← q.least?)
  | .either p q => do return min (← p.least?) (← q.least?)

/-- The largest number of characters that a pattern takes, if there is one. -/
def most? : Expr → Option Nat
  | .empty | .look _ => some 0
  | .literal cs => some cs.length
  | .set s => if s.ranges.isEmpty then none else some 1
  | .group _ p => p.most?
  | .repeated .optional _ p => p.most?
  | .repeated _ _ _ => none
  | .seq p q => do return (← p.most?) + (← q.most?)
  | .either p q => do return max (← p.most?) (← q.most?)

/-- Whether a pattern always takes a character. -/
def takesSome (p : Expr) : Bool := p.least?.any (0 < ·)

/-- Repetitions of a pattern.  One that takes no characters need not be repeated. -/
def again (repetition : Repetition) (eager : Bool) (p : Expr) : Expr :=
  if p.most? = some 0 then
    match repetition with
    | .atLeastOnce => p
    | .optional | .any => .repeated .optional eager p
  else .repeated repetition eager p

/-! ### Sequences -/

/-- What a sequence consists of. -/
def factors : Expr → List Expr
  | .empty => []
  | .seq p q => p.factors ++ q.factors
  | p => [p]

/-- Joins neighbouring literals. -/
def joinLiterals : List Expr → List Expr
  | [] => []
  | p :: rest =>
    match p, joinLiterals rest with
    | .literal cs, .literal ds :: rest => .literal (cs ++ ds) :: rest
    | p, rest => p :: rest

/-- The sequence of the given factors. -/
def ofFactors : List Expr → Expr
  | [] => .empty
  | [p] => p
  | p :: rest => .seq p (ofFactors rest)

/-- One pattern after the other. -/
def concat (ps : List Expr) : Expr := ofFactors (joinLiterals (ps.flatMap factors))

/-! ### Alternatives -/

/-- What there is to choose from. -/
def choices : Expr → List Expr
  | .either p q => p.choices ++ q.choices
  | p => [p]

/-- The characters of a pattern that stands for exactly one. -/
def oneOf? : Expr → Option CharSet
  | .literal [c] => some (.single c)
  | .set s => some s
  | _ => none

/-- The choice between the given patterns. -/
def ofChoices : List Expr → Expr
  | [] => .set .empty
  | [p] => p
  | p :: rest => .either p (ofChoices rest)

/-- The choice between several patterns; characters are gathered in a set. -/
def choose (ps : List Expr) : Expr :=
  let ps := ps.flatMap choices
  match ps.mapM oneOf? with
  | some sets => ofSet (.unionAll sets)
  | none => ofChoices ps

/-- What two lists start with. -/
def commonPrefix : List Expr → List Expr → List Expr
  | p :: ps, q :: qs => if p = q then p :: commonPrefix ps qs else []
  | _, _ => []

/-- What several lists start with. -/
def sharedPrefix : List (List Expr) → List Expr
  | [] => []
  | ps :: rest => rest.foldl commonPrefix ps

/-- One of several patterns.  What all of them start with is taken out, if all are sequences. -/
def alternation (ps : List Expr) : Expr :=
  let sequences := (ps.flatMap choices).map factors
  let shared := if sequences.all (1 < ·.length) then sharedPrefix sequences else []
  if shared.isEmpty then choose ps
  else concat (shared ++ [choose (sequences.map fun s => concat (s.drop shared.length))])

end Expr

end ClassDiagram.Pattern
