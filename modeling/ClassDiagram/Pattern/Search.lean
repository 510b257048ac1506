import ClassDiagram.Pattern.Program

/-! # Searching

A search keeps the places that a program may be at, the preferred one first, while it goes through
a text.  Once a place has met the pattern, those behind it are given up; so the search settles on
the first place in the text where the pattern can be met, and there on the preferred way.
`Program.reachesEnd` tells whether what it settles on ends with the text.

Each place is visited once for a character.  This decides the order where a repetition has a body
that can be empty. -/

namespace ClassDiagram.Pattern

namespace Program

/-- Where an instruction leads to without taking a character, if certain conditions hold. -/
def onward (holding : List Look) : Instruction → List Nat
  | .split nexts => nexts
  | .look l next => if holding.contains l then [next] else []
  | .take _ _ | .done => []

/-- The number of places that have not been seen. -/
def unseen (p : Program) (seen : List Nat) : Nat :=
  (List.range p.code.size).countP fun i => !seen.contains i

theorem unseen_cons_lt (p : Program) {seen : List Nat} {i : Nat} (hi : i < p.code.size)
    (hs : i ∉ seen) : p.unseen (i :: seen) < p.unseen seen := by
  simp only [unseen, List.countP_eq_length_filter]
  have hsub : (List.range p.code.size).filter (fun j => !(i :: seen).contains j) =
      ((List.range p.code.size).filter (fun j => !seen.contains j)).filter
        (fun j => !decide (j = i)) := by
    rw [List.filter_filter]
    congr 1
    funext j
    simp
  rw [hsub]
  apply List.length_filter_lt_length_iff_exists.mpr
  exact ⟨i, by simp [hi, hs], by simp⟩

/-- All places that some places lead to without taking a character, in the order of a walk that
follows each way to its end before the next.  `seen` are those before, the last one first. -/
def reach (p : Program) (holding : List Look) (seen : List Nat) : List Nat → List Nat
  | [] => seen.reverse
  | i :: rest =>
    if hs : i ∈ seen then p.reach holding seen rest
    else if hi : i < p.code.size then
      p.reach holding (i :: seen) (onward holding p.code[i] ++ rest)
    else p.reach holding seen rest
termination_by stack => (p.unseen seen, stack.length)
decreasing_by
  · exact Prod.Lex.right _ (Nat.lt_succ_self _)
  · exact Prod.Lex.left _ _ (unseen_cons_lt p hi hs)
  · exact Prod.Lex.right _ (Nat.lt_succ_self _)

/-- Whether the pattern has been met at a place. -/
def isDone (p : Program) (i : Nat) : Bool := p.code[i]? == some .done

/-- The condition at a place, if there is one. -/
def condition? (p : Program) (i : Nat) : Option Look :=
  match p.code[i]? with
  | some (.look l _) => some l
  | _ => none

/-- Whether a place has to be remembered: it takes a character, has a condition, or is the end. -/
def isKept (p : Program) (i : Nat) : Bool :=
  match p.code[i]? with
  | some (.split _) | none => false
  | some _ => true

end Program

/-- Whether a character belongs to words, of which only the basic Latin ones are known. -/
def isWordCharacter (c : Char) : Bool := c.isAlphanum || c == '_'

/-- A search between two characters of a text. -/
structure Search where
  /-- The places that the program may be at, the preferred one first. -/
  places : List Nat
  /-- The conditions that hold because of the characters before. -/
  behind : List Look := []
  /-- Whether the character before belongs to a word. -/
  afterWord : Bool := false
  /-- Whether the character before is a carriage return. -/
  afterReturn : Bool := false

namespace Search

/-- The search at a point where the given conditions hold because of what comes before. -/
def enter (p : Program) (behind : List Look) (places : List Nat) : Search where
  places := (p.reach behind [] places).filter p.isKept
  behind := behind

/-- The search at the start of a text. -/
def start (p : Program) : Search :=
  enter p [.textStart, .lineStart, .anyLineStart] [Program.entry]

/-- The conditions that hold because of the next character, or of the end of the text. -/
def ahead (s : Search) (next : Option Char) : List Look :=
  let word := next.any isWordCharacter
  (match next with
    | none => [.textEnd, .lineEnd, .anyLineEnd]
    | some '\n' => if s.afterReturn then [.lineEnd] else [.lineEnd, .anyLineEnd]
    | some '\r' => [.anyLineEnd]
    | some _ => [])
  ++ (if s.afterReturn && next != some '\n' then [.anyLineStart] else [])
  ++ (if s.afterWord == word then [.notWordBoundary] else [.wordBoundary])
  ++ (if s.afterWord && !word then [.wordEnd] else [])
  ++ (if !s.afterWord && word then [.wordStart] else [])

/-- The places in view of the next character: if a condition has come true, the walk is repeated
from the places that were kept. -/
def resolve (p : Program) (s : Search) (next : Option Char) : List Nat :=
  let new := (s.ahead next).filter (!s.behind.contains ·)
  if (s.places.filterMap p.condition?).any new.contains then
    p.reach (s.behind ++ new) [] s.places
  else s.places

/-- Whether a search that starts within a character is done at once.  Characters beyond the basic
Latin ones are written with several bytes, and a search can start at each of them. -/
def endsWithin (p : Program) (c : Char) : Bool :=
  decide (1 < c.utf8Size) && ((enter p [] [Program.entry]).resolve p (some c)).any p.isDone

/-- Where a place leads to by taking a character. -/
def taken? (p : Program) (c : Char) (i : Nat) : Option Nat :=
  match p.code[i]? with
  | some (.take set next) => if set.contains c then some next else none
  | _ => none

/-- The search after another character. -/
def step (p : Program) (s : Search) (c : Char) : Search :=
  let places := (s.resolve p (some c)).takeWhile (!p.isDone ·)
  let places := if endsWithin p c then places.filter (· != Program.pass) else places
  let behind := if c = '\n' then [.lineStart, .anyLineStart] else []
  { enter p behind (places.filterMap (taken? p c)) with
    afterWord := isWordCharacter c
    afterReturn := c == '\r' }

/-- Whether the pattern is met at the end of the text. -/
def isMet (p : Program) (s : Search) : Bool := (s.resolve p none).any p.isDone

end Search

/-- Whether what a search in a text settles on ends with the text. -/
def Program.reachesEnd (p : Program) (text : String) : Bool :=
  (text.toList.foldl (Search.step p) (Search.start p)).isMet p

end ClassDiagram.Pattern
