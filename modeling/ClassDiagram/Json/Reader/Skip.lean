import ClassDiagram.Json.Reader.Value

/-! # Passing over values

Values that nobody asks for are passed over without a limit on their nesting: the open brackets are
kept in a list.  What is passed over is still well-formed, except that numbers may be too large and
strings need not be text. -/

namespace ClassDiagram.Json.Reader

/-- The kind of an open bracket. -/
inductive Bracket where
  | list
  | object

/-- What closes a bracket. -/
def Bracket.closer : Bracket → Char
  | .list => ']'
  | .object => '}'

/-- The refusal of an input that ends within the bracket. -/
def Bracket.ends : Bracket → Cause
  | .list => .listEnds
  | .object => .objectEnds

/-- The refusal of something after an item that neither separates nor closes. -/
def Bracket.commaExpected : Bracket → Cause
  | .list => .listCommaExpected
  | .object => .objectCommaExpected

/-- Where passing over stands between two tokens: the innermost open bracket and those around it,
and whether an item has just ended. -/
structure SkipState where
  bracket : Bracket
  outer : List Bracket
  afterItem : Bool

/-- Closes brackets until an item is to follow; then the brackets that are still open. -/
def skipClosers (state : SkipState) : Reader (List Bracket) :=
  repeating (fun (s : SkipState) => do
    match ← peekToken with
    | none => refuseNext s.bracket.ends
    | some c =>
      if s.afterItem ∧ c = ',' then
        advance
        return .done (s.bracket :: s.outer)
      else if c = s.bracket.closer then
        advance
        match s.outer with
        | [] => return .done []
        | bracket :: outer => return .again ⟨bracket, outer, true⟩
      else if s.afterItem then refuseNext s.bracket.commaExpected
      else return .done (s.bracket :: s.outer)) state

/-- Passes over a key and its colon. -/
def skipKey : Reader Unit := do
  match ← peekToken with
  | some '"' => advance; skipString; colon
  | some _ => refuseNext .keyNotString
  | none => refuseNext .objectEnds

/-- Passes over a scalar, or over an opening bracket, which it returns. -/
def skipToken : Reader (Option Bracket) := do
  match ← token with
  | '[' => advance; return some .list
  | '{' => advance; return some .object
  | 'n' => advance; letters ['u', 'l', 'l']; return none
  | 't' => advance; letters ['r', 'u', 'e']; return none
  | 'f' => advance; letters ['a', 'l', 's', 'e']; return none
  | '"' => advance; skipString; return none
  | '-' => advance; skipNumber; return none
  | c => if c.isDigit then skipNumber; return none else refuseNext .valueExpected

/-- What is open after a token was passed over, if anything. -/
def skipNext? (opened : Option Bracket) (stack : List Bracket) : Option SkipState :=
  match opened, stack with
  | some bracket, _ => some ⟨bracket, stack, false⟩
  | none, bracket :: outer => some ⟨bracket, outer, true⟩
  | none, [] => none

/-- Passes over a value of any kind. -/
def skipValue : Reader Unit :=
  repeating (fun stack => do
    let opened ← skipToken
    match skipNext? opened stack with
    | none => return .done ()
    | some state =>
      match ← skipClosers state with
      | [] => return .done ()
      | .list :: outer => return .again (.list :: outer)
      | .object :: outer =>
        skipKey
        return .again (.object :: outer)) []

end ClassDiagram.Json.Reader
