import ClassDiagram.Text.Blank

/-! # How a written pattern is understood

Flags change the meaning of what follows them within the same group.  In a verbose pattern blanks
mean nothing, and a number sign starts a comment that reaches to the end of the line. -/

namespace ClassDiagram.Pattern

/-- How a pattern is understood. -/
structure Flags where
  /-- Small and capital letters are the same. -/
  ignoreCase : Bool := false
  /-- Line breaks bound lines. -/
  multiLine : Bool := false
  /-- A point also stands for line breaks. -/
  acrossLines : Bool := false
  /-- Repetitions prefer less. -/
  swapGreed : Bool := false
  /-- All characters can be meant, and not only the basic Latin ones. -/
  unicode : Bool := true
  /-- A carriage return is a line break, too. -/
  anyLineBreak : Bool := false
  verbose : Bool := false
  deriving DecidableEq, Repr

namespace Flags

/-- Sets the flag with the given letter. -/
def set? (f : Flags) (on : Bool) : Char → Option Flags
  | 'i' => some { f with ignoreCase := on }
  | 'm' => some { f with multiLine := on }
  | 's' => some { f with acrossLines := on }
  | 'U' => some { f with swapGreed := on }
  | 'u' => some { f with unicode := on }
  | 'R' => some { f with anyLineBreak := on }
  | 'x' => some { f with verbose := on }
  | _ => none

/-- Sets flags: those in front of a hyphen are switched on, those behind it are switched off. -/
def setAll? (f : Flags) (on : Bool) : List Char → Option Flags
  | [] => some f
  | '-' :: rest => f.setAll? false rest
  | c :: rest => do (← f.set? on c).setAll? on rest

/-- Reads a change of flags.  No sign may occur twice, and a hyphen has to be followed by a flag. -/
def read? (f : Flags) (letters : List Char) : Option Flags :=
  if letters.Nodup ∧ letters.getLast? ≠ some '-' then f.setAll? true letters else none

end Flags

/-- Passes over blanks and comments; `inComment` tells whether a comment has begun. -/
def passBlanks (inComment : Bool) : List Char → List Char
  | [] => []
  | c :: rest =>
    if inComment then passBlanks (c != '\n') rest
    else if Text.isBlank c then passBlanks false rest
    else if c = '#' then passBlanks true rest
    else c :: rest

/-- The rest of a pattern from the next character that means something. -/
def significant (f : Flags) (cs : List Char) : List Char :=
  if f.verbose then passBlanks false cs else cs

theorem length_passBlanks_le (inComment : Bool) (cs : List Char) :
    (passBlanks inComment cs).length ≤ cs.length := by
  fun_induction passBlanks inComment cs <;> grind

theorem length_significant_le (f : Flags) (cs : List Char) :
    (significant f cs).length ≤ cs.length := by
  rw [significant]
  split
  · exact length_passBlanks_le false cs
  · exact Nat.le_refl _

/-- A look at the character that comes after the blanks.  A number sign among them is passed over,
but not the comment behind it; if nothing is found, the first blank is seen. -/
def glimpse (f : Flags) (cs : List Char) : Option Char :=
  if f.verbose then
    let rest := cs.dropWhile Text.isBlank
    let rest := if rest.head? = some '#' then rest.tail.dropWhile Text.isBlank else rest
    rest.head?.or cs.head?
  else cs.head?

end ClassDiagram.Pattern
