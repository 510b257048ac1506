import ClassDiagram.Json.Cause
import ClassDiagram.Text.Position

/-! # Where the bytes of a document come from

A document is read from a `Source`: a state from which the next byte can be taken, or looked at and
left.  There are two of them.

* A `Slice` has the whole input at hand and an index into it.  It works a place out when it is asked
  for one, from the bytes in front of it.
* A `Stream` fetches bytes one after the other, and asking for one more may fail.  The byte that was
  looked at is kept in `ahead`.  A byte that was fetched is gone, so the line and the column are
  counted as the bytes come in, the one that was looked at included. -/

namespace ClassDiagram.Json

/-- How reading fails. -/
inductive Fault where
  /-- The document is not acceptable; the place is still open for a refusal of a value's shape. -/
  | refused (cause : Cause) (place : Option Text.Position)
  /-- The bytes could not be delivered. -/
  | unreadable (reason : String)

/-- The fault with its place, if that was still open. -/
def Fault.placedAt (place : Text.Position) : Fault → Fault
  | .refused cause none => .refused cause (some place)
  | fault => fault

/-- A step of a reader on a source; the source changes even if the step fails. -/
abbrev Machine (κ : Type) := EStateM Fault κ

/-- States that hand out bytes. -/
class Source (κ : Type) where
  /-- The next byte, which stays where it is; none at the end of the input. -/
  peek : Machine κ (Option UInt8)
  /-- The next byte, which is taken. -/
  next : Machine κ (Option UInt8)
  /-- The place of what is refused here. -/
  place : κ → Text.Position
  /-- The place of what is refused because of the byte that was looked at. -/
  peekPlace : κ → Text.Position
  /-- The number of bytes that have not been taken. -/
  left : κ → Nat

/-! ### Slices -/

/-- A place in an input that is at hand. -/
structure Slice where
  input : Array UInt8
  /-- The number of bytes that were taken. -/
  index : Nat
  index_le : index ≤ input.size

namespace Slice

/-- The slice in front of an input. -/
def start (input : List UInt8) : Slice := ⟨input.toArray, 0, Nat.zero_le _⟩

/-- The next byte. -/
def peek : Machine Slice (Option UInt8) := fun s => .ok s.input[s.index]? s

/-- Takes the next byte. -/
def next : Machine Slice (Option UInt8) := fun s =>
  if h : s.index < s.input.size then .ok (some s.input[s.index]) ⟨s.input, s.index + 1, h⟩
  else .ok none s

/-- The position of an offset in the input. -/
def position (s : Slice) (offset : Nat) : Text.Position :=
  Text.Position.ofOffset s.input.toList offset

end Slice

instance : Source Slice where
  peek := Slice.peek
  next := Slice.next
  place s := s.position s.index
  peekPlace s := s.position (min s.input.size (s.index + 1))
  left s := s.input.size - s.index

/-! ### Streams -/

/-- What comes after the last byte of a stream. -/
inductive Ending where
  | closed
  /-- Asking for more bytes fails with this text. -/
  | broken (reason : String)
  deriving DecidableEq

/-- Bytes that arrive one after the other. -/
structure Stream where
  /-- The bytes that were not fetched yet. -/
  pending : List UInt8
  /-- The number of these bytes. -/
  count : Nat
  count_eq : count = pending.length
  ending : Ending
  /-- The byte that was fetched, but only looked at. -/
  ahead : Option UInt8
  /-- The place behind the bytes that were fetched. -/
  place : Text.Position

namespace Stream

/-- The stream in front of an input. -/
def start (input : List UInt8) (ending : Ending) : Stream :=
  ⟨input, input.length, rfl, ending, none, .start⟩

/-- Fetches a byte; the place moves behind it. -/
def fetch : Machine Stream (Option UInt8) := fun s =>
  match h : s.pending with
  | b :: pending =>
    .ok (some b) {
      s with
      pending
      count := s.count - 1
      count_eq := by simp [s.count_eq, h]
      place := s.place.step b }
  | [] =>
    match s.ending with
    | .closed => .ok none s
    | .broken reason => .error (.unreadable reason) s

/-- The next byte, which is fetched unless it was looked at before. -/
def peek : Machine Stream (Option UInt8) := fun s =>
  match s.ahead with
  | some b => .ok (some b) s
  | none =>
    match fetch s with
    | .ok b s' => .ok b { s' with ahead := b }
    | .error fault s' => .error fault s'

/-- Takes the byte that was looked at, or else fetches one. -/
def next : Machine Stream (Option UInt8) := fun s =>
  match s.ahead with
  | some b => .ok (some b) { s with ahead := none }
  | none => fetch s

end Stream

instance : Source Stream where
  peek := Stream.peek
  next := Stream.next
  place := Stream.place
  peekPlace := Stream.place
  left s := s.count + s.ahead.toList.length

end ClassDiagram.Json
