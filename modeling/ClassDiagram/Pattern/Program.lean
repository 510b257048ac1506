import ClassDiagram.Pattern.Expr

/-! # Programs for patterns

A pattern becomes a list of instructions with places to go on to.  The code of a pattern starts at
its first instruction, and goes on to a given place when the pattern has been met. -/

namespace ClassDiagram.Pattern

/-- An instruction; places are numbers of instructions. -/
inductive Instruction where
  /-- Take a character of the set and go on. -/
  | take (s : CharSet) (next : Nat)
  /-- Go on if a condition holds. -/
  | look (l : Look) (next : Nat)
  /-- Go on to each of several places, the preferred one first. -/
  | split (nexts : List Nat)
  /-- The pattern has been met. -/
  | done
  deriving DecidableEq, Repr

/-- The two places that a repetition goes on to: once more, or on. -/
def Instruction.turn (eager : Bool) (body next : Nat) : Instruction :=
  .split (if eager then [body, next] else [next, body])

namespace Expr

/-- The number of instructions for characters one after the other. -/
def literalSize : List Char → Nat
  | [] => 1
  | cs => cs.length

/-- The number of instructions for a pattern. -/
def size : Expr → Nat
  | .empty => 1
  | .literal cs => literalSize cs
  | .set _ => 1
  | .look _ => 1
  | .group _ p => p.size
  | .repeated .optional _ p => p.size + 1
  | .repeated .any _ p => if p.takesSome then p.size + 1 else p.size + 2
  | .repeated .atLeastOnce _ p => p.size + 1
  | .seq p q => p.size + q.size
  | .either p q => p.size + q.size + 1

/-- The code for characters one after the other. -/
def literalCode (start next : Nat) : List Char → List Instruction
  | [] => [.split [next]]
  | [c] => [.take (.single c) next]
  | c :: rest => .take (.single c) (start + 1) :: literalCode (start + 1) next rest

/-- The code of a pattern that starts at a place and goes on to another.  A repetition of something
that can be empty decides at two places: whether to begin, and after each turn whether to go on. -/
def code (start next : Nat) : Expr → List Instruction
  | .empty => [.split [next]]
  | .literal cs => literalCode start next cs
  | .set s => [.take s next]
  | .look l => [.look l next]
  | .group _ p => p.code start next
  | .repeated .optional eager p => .turn eager (start + 1) next :: p.code (start + 1) next
  | .repeated .any eager p =>
    let turn : Instruction := .turn eager (start + 1) next
    if p.takesSome then turn :: p.code (start + 1) start
    else turn :: (p.code (start + 1) (start + 1 + p.size) ++ [turn])
  | .repeated .atLeastOnce eager p =>
    p.code start (start + p.size) ++ [.turn eager start next]
  | .seq p q => p.code start (start + p.size) ++ q.code (start + p.size) next
  | .either p q =>
    .split [start + 1, start + 1 + p.size]
      :: (p.code (start + 1) next ++ q.code (start + 1 + p.size) next)

end Expr

/-- A list of instructions. -/
structure Program where
  code : Array Instruction
  deriving DecidableEq, Repr

namespace Program

/-- Where a search begins: at the pattern, or else after another character. -/
def entry : Nat := 0

/-- The place where a search passes over a character. -/
def pass : Nat := 1

/-- The program that searches for a pattern anywhere in a text. -/
def ofExpr (p : Expr) : Program :=
  let search : List Instruction := [.split [2, pass], .take .any entry]
  ⟨(search ++ p.code 2 (2 + p.size) ++ [Instruction.done]).toArray⟩

end Program

end ClassDiagram.Pattern
