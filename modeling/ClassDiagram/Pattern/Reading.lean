import ClassDiagram.Pattern.Bracket
import ClassDiagram.Text.Alphanumeric

/-! # Written patterns

A point stands for any character, brackets enclose sets, parentheses group, a bar separates
alternatives, and `*`, `+` and `?` repeat what stands before them; another `?` prefers less.  A
group can have a name or set flags.  A text that does not follow these rules is no pattern, and
neither is one that is nested too deeply. -/

namespace ClassDiagram.Pattern

/-- The largest depth of a pattern. -/
def depthLimit : Nat := 250

/-- A piece of a pattern and how deeply its description is nested. -/
structure Item where
  expr : Expr
  depth : Nat := 0
  /-- Whether it can be repeated; a change of flags cannot. -/
  repeatable : Bool := true

namespace Item

/-- The greatest depth of some items. -/
def deepest (items : List Item) : Nat := items.foldl (fun n i => max n i.depth) 0

/-- The sequence of some items. -/
def sequence : List Item → Item
  | [] => ⟨.empty, 0, true⟩
  | [i] => i
  | items => ⟨.concat (items.map Item.expr), deepest items + 1, true⟩

/-- The choice between some items. -/
def choice : List Item → Item
  | [i] => i
  | items => ⟨.alternation (items.map Item.expr), deepest items + 1, true⟩

end Item

/-- A group that is being read, without its parentheses: the alternatives that are complete, and the
items of the last one; the last comes first in both. -/
structure Branches where
  alternatives : List Item := []
  items : List Item := []

namespace Branches

/-- The group with another item. -/
def add (b : Branches) (i : Item) : Branches := { b with items := i :: b.items }

/-- The alternative that is being read. -/
def current (b : Branches) : Item := Item.sequence b.items.reverse

/-- The group after a bar. -/
def next (b : Branches) : Branches := { alternatives := b.current :: b.alternatives }

/-- The group as an item. -/
def item (b : Branches) : Item := Item.choice (b.current :: b.alternatives).reverse

/-- The group with its last item repeated. -/
def again? (b : Branches) (repetition : Repetition) (eager : Bool) : Option Branches :=
  match b.items with
  | i :: rest =>
    if i.repeatable then
      some { b with items := ⟨.again repetition eager i.expr, i.depth + 1, true⟩ :: rest }
    else none
  | [] => none

end Branches

/-- A group around the one that is being read. -/
structure Around where
  branches : Branches
  /-- The flags that hold again when the inner group is closed. -/
  flags : Flags
  /-- The number of the inner group, if it has one. -/
  index : Option Nat

/-- How far a pattern has been read. -/
structure Progress where
  branches : Branches := {}
  flags : Flags := {}
  /-- The groups around the present one, the innermost first. -/
  around : List Around := []
  /-- The number of groups that were opened and have a number. -/
  groups : Nat := 0
  names : List (List Char) := []

namespace Progress

/-- Adds an item. -/
def add (p : Progress) (i : Item) : Progress := { p with branches := p.branches.add i }

/-- Adds a pattern that is not nested. -/
def addExpr (p : Progress) (e : Expr) : Progress := p.add { expr := e }

/-- Opens a group in which other flags may hold. -/
def openGroup (p : Progress) (flags : Flags) (index : Option Nat) : Progress :=
  { p with
    branches := {}
    flags
    around := ⟨p.branches, p.flags, index⟩ :: p.around }

/-- Opens a group that has the next number. -/
def openNumbered (p : Progress) : Progress :=
  { p.openGroup p.flags (some (p.groups + 1)) with groups := p.groups + 1 }

/-- Closes the innermost group. -/
def closeGroup? (p : Progress) : Option Progress :=
  match p.around with
  | [] => none
  | a :: around =>
    let inner := p.branches.item
    let expr :=
      match a.index with
      | some n => .group n inner.expr
      | none => inner.expr
    let branches := a.branches.add { expr, depth := inner.depth + 1 }
    some { p with branches, flags := a.flags, around }

/-- Whether a name can be given to a group: it starts with a letter or an underscore, and goes on
with letters, digits, and a few signs. -/
def isName : List Char → Bool
  | [] => false
  | c :: rest =>
    (c == '_' || Text.isAlphabetic c)
      && rest.all fun c => Text.isAlphanumeric c || ['_', '.', '[', ']'].contains c

/-- Opens a group with a name, which ends at the next angle bracket and must be new. -/
def openNamed? (p : Progress) (cs : List Char) : Option (Progress × List Char) :=
  let name := cs.takeWhile (· != '>')
  match cs.drop name.length with
  | _ :: rest =>
    if isName name ∧ name ∉ p.names then
      some ({ p.openNumbered with names := name :: p.names }, rest)
    else none
  | [] => none

/-- Reads flags up to a colon, where a group is opened for them, or up to a closing parenthesis. -/
def readFlags? (p : Progress) (cs : List Char) : Option (Progress × List Char) := do
  let letters := cs.takeWhile fun c => c != ':' && c != ')'
  let flags ← p.flags.read? letters
  match cs.drop letters.length with
  | ':' :: rest => return (p.openGroup flags none, rest)
  | ')' :: rest =>
    if letters.isEmpty then none
    else
      let change : Item := { expr := .empty, repeatable := false }
      return ({ p.add change with flags }, rest)
  | _ => none

/-- Reads what follows an opening parenthesis.  Groups that only look ahead or back are refused. -/
def readGroup? (p : Progress) (cs : List Char) : Option (Progress × List Char) :=
  match significant p.flags cs with
  | '?' :: 'P' :: '<' :: rest => p.openNamed? rest
  | '?' :: '<' :: rest => p.openNamed? rest
  | '?' :: rest => p.readFlags? rest
  | rest => some (p.openNumbered, rest)

/-- The pattern for a character. -/
def charExpr? (f : Flags) (c : Char) : Option Expr :=
  if f.ignoreCase then
    if f.unicode then none else some (.ofSet (CharSet.single c).anyCase)
  else some (.literal [c])

/-- The pattern for a point. -/
def pointExpr? (f : Flags) : Option Expr :=
  if !f.unicode then none
  else if f.acrossLines then some (.set .any)
  else if f.anyLineBreak then some (.set ((CharSet.single '\n').union (.single '\r')).complement)
  else some (.set (CharSet.single '\n').complement)

/-- The pattern for the beginning of a line. -/
def lineStartExpr (f : Flags) : Expr :=
  .look (if !f.multiLine then .textStart else if f.anyLineBreak then .anyLineStart else .lineStart)

/-- The pattern for the end of a line. -/
def lineEndExpr (f : Flags) : Expr :=
  .look (if !f.multiLine then .textEnd else if f.anyLineBreak then .anyLineEnd else .lineEnd)

/-- The pattern for an element.  Words are known only among the basic Latin characters. -/
def atomExpr? (f : Flags) : Atom → Option Expr
  | .char c asByte => if asByte ∧ !f.unicode ∧ 0x80 ≤ c.toNat then none else charExpr? f c
  | .shorthand s negated => .ofSet <$> shorthandSet? f s negated
  | .edge l => some (.look l)
  | .word l => if f.unicode then none else some (.look l)

/-- Repeats the last item; a question mark behind the sign swaps what is preferred. -/
def readRepetition? (p : Progress) (repetition : Repetition) (cs : List Char) :
    Option (Progress × List Char) := do
  let (eager, rest) :=
    match cs with
    | '?' :: rest => (false, rest)
    | cs => (true, cs)
  let branches ← p.branches.again? repetition (eager != p.flags.swapGreed)
  return ({ p with branches }, rest)

/-- Reads the next piece of a pattern, which starts with the given character.  A brace would open a
counted repetition, whose closing brace cannot be written where patterns are used. -/
def step? (p : Progress) (c : Char) (rest : List Char) : Option (Progress × List Char) :=
  match c with
  | '(' => p.readGroup? rest
  | ')' => do return (← p.closeGroup?, rest)
  | '|' => some ({ p with branches := p.branches.next }, rest)
  | '?' => p.readRepetition? .optional rest
  | '*' => p.readRepetition? .any rest
  | '+' => p.readRepetition? .atLeastOnce rest
  | '\x7b' => none
  | '[' => do
    let (part, rest) ← readBracket? p.flags rest
    return (p.add { expr := .ofSet part.set, depth := part.depth }, rest)
  | '\\' => do
    let (atom, rest) ← readEscape? p.flags rest
    return (p.addExpr (← atomExpr? p.flags atom), rest)
  | '.' => do return (p.addExpr (← pointExpr? p.flags), rest)
  | '^' => some (p.addExpr (lineStartExpr p.flags), rest)
  | '$' => some (p.addExpr (lineEndExpr p.flags), rest)
  | c => do return (p.addExpr (← charExpr? p.flags c), rest)

/-- Reads the rest of a pattern.  Each piece takes at least one character. -/
def finish? (p : Progress) (cs : List Char) : Option Item :=
  match significant p.flags cs with
  | [] => if p.around.isEmpty then some p.branches.item else none
  | c :: rest =>
    match p.step? c rest with
    | some (p, left) => if left.length < cs.length then p.finish? left else none
    | none => none
termination_by cs.length

end Progress

/-- The pattern that a text writes. -/
def Expr.ofText? (s : String) : Option Expr := do
  let item ← Progress.finish? {} s.toList
  if item.depth ≤ depthLimit then some item.expr else none

end ClassDiagram.Pattern
