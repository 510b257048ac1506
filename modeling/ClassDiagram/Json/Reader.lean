import ClassDiagram.Json.Source

/-! # Reading

A `Reader` is a program for reading a document.  It says when a byte is looked at or taken, and when
and why the document is refused, but not where the bytes come from: `Reader.run` runs it on any
source.

A refusal is given the place that the source has reached.  Refusals of a value's shape have no place
of their own: the enclosing reader gives them one (`placing`).

The constructors of `Reader` are the only readers that a source sees; all others are built from
them. -/

namespace ClassDiagram.Json

/-- How a step of a repetition ends. -/
inductive Step (σ α : Type) where
  | again (state : σ)
  | done (result : α)

/-- A program that reads a value of the given type. -/
inductive Reader : Type → Type 1 where
  | protected pure {α : Type} (a : α) : Reader α
  | protected bind {α β : Type} (r : Reader α) (f : α → Reader β) : Reader β
  /-- The next byte, without taking it. -/
  | peekByte : Reader (Option UInt8)
  /-- Takes the next byte. -/
  | next : Reader (Option UInt8)
  /-- Refuses the document at the place reached so far. -/
  | refuse {α : Type} (cause : Cause) : Reader α
  /-- Refuses the document because of the byte that was looked at. -/
  | refuseNext {α : Type} (cause : Cause) : Reader α
  /-- Refuses the document at a place `n` columns back. -/
  | refuseBack {α : Type} (n : Nat) (cause : Cause) : Reader α
  /-- Refuses the shape of a value; the place is left to the enclosing reader. -/
  | refuseShape {α : Type} (cause : Cause) : Reader α
  /-- Runs a reader and places its refusal where it stopped, unless it has a place already. -/
  | placing {α : Type} (body : Reader α) : Reader α
  /-- Runs `body` and then `close`, also if `body` fails: then its fault counts. -/
  | closing {α : Type} (body : Reader α) (close : Reader Unit) : Reader α
  /-- Runs a reader; nothing if it fails. -/
  | attempt {α : Type} (body : Reader α) : Reader (Option α)
  /-- Repeats a step until it is done. -/
  | repeating {α σ : Type} (step : σ → Reader (Step σ α)) (state : σ) : Reader α

namespace Reader

variable {κ α σ : Type}

instance : Monad Reader where
  pure := .pure
  bind := .bind

/-! ### Running on a source -/

/-- Runs a machine and places its refusal where it stopped, unless it has a place already. -/
def placed [Source κ] (body : Machine κ α) : Machine κ α := fun c =>
  match body c with
  | .ok a c' => .ok a c'
  | .error fault c' => .error (fault.placedAt (Source.place c')) c'

/-- The source behind an outcome. -/
def stopped : EStateM.Result Fault κ α → κ
  | .ok _ c => c
  | .error _ c => c

/-- Runs a machine and then another one, also if the first one fails: then its fault counts. -/
def closed (body : Machine κ α) (close : Machine κ Unit) : Machine κ α := fun c =>
  match body c with
  | .ok a c' =>
    match close c' with
    | .ok _ c'' => .ok a c''
    | .error fault c'' => .error fault c''
  | .error fault c' => .error fault (stopped (close c'))

/-- Runs a machine; nothing if it fails. -/
def attempted (body : Machine κ α) : Machine κ (Option α) := fun c =>
  match body c with
  | .ok a c' => .ok (some a) c'
  | .error _ c' => .ok none c'

/-- Repeats a step until it is done.  A step that is to be repeated must take a byte: what takes up
no room is no value. -/
def repeated [Source κ] (step : σ → Machine κ (Step σ α)) (state : σ) (c : κ) :
    EStateM.Result Fault κ α :=
  match step state c with
  | .ok (.done result) c' => .ok result c'
  | .ok (.again state) c' =>
    if Source.left c' < Source.left c then repeated step state c'
    else .error (.refused .valueExpected (some (Source.place c'))) c'
  | .error fault c' => .error fault c'
termination_by Source.left c

/-- Runs a reader on a source. -/
def run [Source κ] {α : Type} : Reader α → Machine κ α
  | .pure a => pure a
  | .bind r f => r.run >>= fun a => (f a).run
  | .peekByte => Source.peek
  | .next => Source.next
  | .refuse cause => fun c => .error (.refused cause (some (Source.place c))) c
  | .refuseNext cause => fun c => .error (.refused cause (some (Source.peekPlace c))) c
  | .refuseBack n cause => fun c => .error (.refused cause (some ((Source.place c).back n))) c
  | .refuseShape cause => throw (.refused cause none)
  | .placing body => placed body.run
  | .closing body close => closed body.run close.run
  | .attempt body => attempted body.run
  | .repeating step state => repeated (fun state => (step state).run) state

/-! ### Bytes and blanks -/

/-- The next byte, seen as a character, without taking it. -/
def peek : Reader (Option Char) := do return (← peekByte).map Char.ofUInt8

/-- Takes the byte that was looked at. -/
def advance : Reader Unit := do let _ ← next

/-- Takes one more byte of a run, if it has the property `p`; `taken` are the bytes before it, the
last one first. -/
def spanStep (p : UInt8 → Bool) (taken : List UInt8) :
    Reader (Step (List UInt8) (List UInt8)) := do
  match ← peekByte with
  | some b =>
    if p b then
      advance
      return .again (b :: taken)
    else return .done taken.reverse
  | none => return .done taken.reverse

/-- Takes the longest run of bytes with the property `p`. -/
def span (p : UInt8 → Bool) : Reader (List UInt8) := repeating (spanStep p) []

/-- Blanks between tokens. -/
def isBlank (b : UInt8) : Bool := b == 0x20 || b == 0x0A || b == 0x09 || b == 0x0D

/-- The decimal digits. -/
def isDigit (b : UInt8) : Bool := 0x30 ≤ b && b ≤ 0x39

/-- The first byte after the blanks, without taking it. -/
def peekToken : Reader (Option Char) := do
  let _ ← span isBlank
  peek

end Reader

end ClassDiagram.Json
