import ClassDiagram.Json.Source
import ClassDiagram.Proofs.Text.Position

/-! # Sources as lists

However a source keeps its bytes, those that are left form a list (`Lawful.rest`): looking at a byte
leaves the list as it is, taking one takes its head, and only when none is left does the ending
matter.  Slices and streams both are lawful.  What is proved for lawful sources therefore holds of
either.

Their places agree as well.  A stream that stands in an input (`Stream.StandsAt`) tells the position
of the bytes that it has fetched, although it never sees the input as a whole. -/

namespace ClassDiagram.Json

variable {κ : Type}

/-- What asking for a byte comes to when none is left. -/
def Ending.outcome (c : κ) : Ending → EStateM.Result Fault κ (Option UInt8)
  | .closed => .ok none c
  | .broken reason => .error (.unreadable reason) c

theorem Ending.outcome_ne_refused {ending : Ending} {c c' : κ} {cause : Cause}
    {place : Option Text.Position} : ending.outcome c ≠ .error (.refused cause place) c' := by
  cases ending <;> nofun

/-- The bytes behind an index begin with the byte there. -/
theorem of_drop_eq_cons {input : List UInt8} {index : Nat} {b : UInt8} {bs : List UInt8}
    (h : input.drop index = b :: bs) : input[index]? = some b ∧ input.drop (index + 1) = bs := by
  constructor
  · rw [← List.head?_drop, h]
    rfl
  · rw [← List.tail_drop, h]
    rfl

/-- A source that hands out the bytes of a list. -/
class Lawful (κ : Type) [Source κ] where
  /-- The bytes that have not been taken. -/
  rest : κ → List UInt8
  ending : κ → Ending
  left_eq (c : κ) : Source.left c = (rest c).length
  peek_cons {c : κ} {b : UInt8} {bs : List UInt8} : rest c = b :: bs →
    ∃ c', Source.peek c = .ok (some b) c' ∧ rest c' = b :: bs ∧ ending c' = ending c
  next_cons {c : κ} {b : UInt8} {bs : List UInt8} : rest c = b :: bs →
    ∃ c', Source.next c = .ok (some b) c' ∧ rest c' = bs ∧ ending c' = ending c
  peek_nil {c : κ} : rest c = [] → Source.peek c = (ending c).outcome c
  next_nil {c : κ} : rest c = [] → Source.next c = (ending c).outcome c

namespace Lawful

variable [Source κ] [Lawful κ] {c c' : κ}

/-- Looking at a byte shows the head of the list. -/
theorem peek_eq_ok {b? : Option UInt8} (h : Source.peek c = .ok b? c') :
    (rest c).head? = b? ∧ rest c' = rest c ∧ ending c' = ending c := by
  cases hrest : rest c with
  | nil =>
    rw [peek_nil hrest, Ending.outcome.eq_def] at h
    split at h
    · cases h
      exact ⟨rfl, hrest, rfl⟩
    · cases h
  | cons b bs =>
    obtain ⟨c₁, hpeek, hrest₁, hending⟩ := peek_cons hrest
    rw [hpeek] at h
    cases h
    exact ⟨rfl, hrest₁, hending⟩

/-- Taking a byte takes the head of the list. -/
theorem next_eq_ok {b : UInt8} (h : Source.next c = .ok (some b) c') : rest c = b :: rest c' := by
  cases hrest : rest c with
  | nil =>
    rw [next_nil hrest, Ending.outcome.eq_def] at h
    split at h <;> cases h
  | cons b' bs =>
    obtain ⟨c₁, hnext, hrest₁, -⟩ := next_cons hrest
    rw [hnext] at h
    cases h
    rw [hrest₁]

end Lawful

/-! ### Slices -/

namespace Slice

/-- The bytes from the index on. -/
def rest (s : Slice) : List UInt8 := s.input.toList.drop s.index

theorem rest_start (input : List UInt8) : (start input).rest = input := by
  simp [rest, start]

theorem left_eq (s : Slice) : Source.left s = s.rest.length := by
  show s.input.size - s.index = _
  rw [rest, List.length_drop, Array.length_toList]

theorem getElem?_of_rest {s : Slice} {b : UInt8} {bs : List UInt8} (h : s.rest = b :: bs) :
    s.input[s.index]? = some b := by
  rw [← Array.getElem?_toList]
  exact (of_drop_eq_cons h).1

theorem getElem?_of_rest_nil {s : Slice} (h : s.rest = []) : s.input[s.index]? = none := by
  rw [← Array.getElem?_toList, ← List.head?_drop]
  exact congrArg List.head? h

theorem next_of_rest {s : Slice} {b : UInt8} {bs : List UInt8} (h : s.rest = b :: bs) :
    ∃ s', s.next = .ok (some b) s' ∧ s'.rest = bs ∧ s'.input = s.input ∧
      s'.index = s.index + 1 := by
  obtain ⟨hlt, hget⟩ := Array.getElem?_eq_some_iff.mp (getElem?_of_rest h)
  refine ⟨⟨s.input, s.index + 1, hlt⟩, ?_, (of_drop_eq_cons h).2, rfl, rfl⟩
  rw [next, dif_pos hlt, hget]

theorem next_of_rest_nil {s : Slice} (h : s.rest = []) : s.next = .ok none s := by
  have hge := Array.getElem?_eq_none_iff.mp (getElem?_of_rest_nil h)
  rw [next, dif_neg (by omega)]

end Slice

instance : Lawful Slice where
  rest := Slice.rest
  ending _ := .closed
  left_eq := Slice.left_eq
  peek_cons {s b bs} h := by
    refine ⟨s, ?_, h, rfl⟩
    show s.peek = _
    rw [Slice.peek, Slice.getElem?_of_rest h]
  next_cons h := by
    obtain ⟨s', hnext, hrest, -, -⟩ := Slice.next_of_rest h
    exact ⟨s', hnext, hrest, rfl⟩
  peek_nil {s} h := by
    show s.peek = _
    rw [Slice.peek, Slice.getElem?_of_rest_nil h]
    rfl
  next_nil h := Slice.next_of_rest_nil h

/-! ### Streams -/

namespace Stream

/-- The byte that was looked at, and those that were not fetched yet. -/
def rest (t : Stream) : List UInt8 := t.ahead.toList ++ t.pending

theorem left_eq (t : Stream) : Source.left t = t.rest.length := by
  show t.count + t.ahead.toList.length = _
  rw [rest, List.length_append, t.count_eq, Nat.add_comm]

/-- The stream stands behind `index` bytes of the input; it has fetched one more if a byte was
looked at. -/
structure StandsAt (t : Stream) (input : List UInt8) (index : Nat) : Prop where
  index_le : index ≤ input.length
  rest : t.rest = input.drop index
  place : t.place = .ofOffset input (index + t.ahead.toList.length)

theorem standsAt_start (input : List UInt8) (ending : Ending) :
    (start input ending).StandsAt input 0 :=
  ⟨Nat.zero_le _, rfl, rfl⟩

/-- `t'` comes after `t` in the same delivery, and the place has been kept up to date. -/
structure Follows (t t' : Stream) (taken : Nat) : Prop where
  ending : t'.ending = t.ending
  standsAt {input : List UInt8} {index : Nat} : t.StandsAt input index →
    t'.StandsAt input (index + taken)

theorem fetch_cons {t : Stream} {b : UInt8} {pending : List UInt8} (h : t.pending = b :: pending) :
    ∃ t', t.fetch = .ok (some b) t' ∧ t'.pending = pending ∧ t'.ending = t.ending ∧
      t'.ahead = t.ahead ∧ t'.place = t.place.step b := by
  obtain ⟨_, count, count_eq, ending, ahead, place⟩ := t
  cases h
  exact ⟨_, rfl, rfl, rfl, rfl, rfl⟩

theorem fetch_nil {t : Stream} (h : t.pending = []) : t.fetch = t.ending.outcome t := by
  obtain ⟨_, count, count_eq, ending, ahead, place⟩ := t
  cases h
  cases ending <;> rfl

/-- The byte that is looked at is kept, and the place is behind it. -/
theorem peek_cons {t : Stream} {b : UInt8} {bs : List UInt8} (h : t.rest = b :: bs) :
    ∃ t', t.peek = .ok (some b) t' ∧ t'.rest = b :: bs ∧ t'.ahead = some b ∧ t.Follows t' 0 := by
  rw [peek]
  cases hahead : t.ahead with
  | some b' =>
    rw [rest, hahead] at h
    cases h
    exact ⟨t, rfl, by rw [rest, hahead]; rfl, hahead, rfl, id⟩
  | none =>
    have hpending : t.pending = b :: bs := by rw [← h, rest, hahead]; rfl
    obtain ⟨t', hfetch, hpending', hending, -, hplace⟩ := fetch_cons hpending
    have hrest : ({ t' with ahead := some b } : Stream).rest = b :: bs :=
      congrArg (b :: ·) hpending'
    simp only [hfetch]
    refine ⟨_, rfl, hrest, rfl, hending, fun {input index} hstands => ⟨hstands.index_le, ?_, ?_⟩⟩
    · rw [hrest, ← h, hstands.rest, Nat.add_zero]
    · have hget := (of_drop_eq_cons (hstands.rest.symm.trans h)).1
      have hstep := Text.Position.ofOffset_succ hget
      rw [hplace, hstands.place, hahead]
      exact hstep.symm

theorem next_cons {t : Stream} {b : UInt8} {bs : List UInt8} (h : t.rest = b :: bs) :
    ∃ t', t.next = .ok (some b) t' ∧ t'.rest = bs ∧ t'.ahead = none ∧ t.Follows t' 1 := by
  have hindex {input : List UInt8} {index : Nat} (hstands : t.StandsAt input index) :
      input[index]? = some b ∧ input.drop (index + 1) = bs :=
    of_drop_eq_cons (hstands.rest.symm.trans h)
  rw [next]
  cases hahead : t.ahead with
  | some b' =>
    rw [rest, hahead] at h
    cases h
    refine ⟨_, rfl, rfl, rfl, rfl, fun {input index} hstands => ⟨?_, ?_, ?_⟩⟩
    · exact (List.getElem?_eq_some_iff.mp (hindex hstands).1).1
    · exact (hindex hstands).2.symm
    · rw [hstands.place, hahead]
      rfl
  | none =>
    have hpending : t.pending = b :: bs := by rw [← h, rest, hahead]; rfl
    obtain ⟨t', hfetch, hpending', hending, hahead', hplace⟩ := fetch_cons hpending
    have hnone : t'.ahead = none := hahead'.trans hahead
    have hrest : t'.rest = bs := by
      rw [rest, hnone, hpending']
      rfl
    refine ⟨t', hfetch, hrest, hnone, hending, fun {input index} hstands => ⟨?_, ?_, ?_⟩⟩
    · exact (List.getElem?_eq_some_iff.mp (hindex hstands).1).1
    · rw [hrest, (hindex hstands).2]
    · rw [hplace, hstands.place, hahead, hnone]
      exact (Text.Position.ofOffset_succ (hindex hstands).1).symm

theorem ahead_of_rest_nil {t : Stream} (h : t.rest = []) : t.ahead = none ∧ t.pending = [] := by
  obtain ⟨hahead, hpending⟩ := List.append_eq_nil_iff.mp h
  exact ⟨Option.toList_eq_nil_iff.mp hahead, hpending⟩

theorem peek_nil {t : Stream} (h : t.rest = []) : t.peek = t.ending.outcome t := by
  obtain ⟨hahead, hpending⟩ := ahead_of_rest_nil h
  obtain ⟨_, count, count_eq, ending, _, place⟩ := t
  cases hahead
  cases hpending
  cases ending <;> rfl

theorem next_nil {t : Stream} (h : t.rest = []) : t.next = t.ending.outcome t := by
  obtain ⟨hahead, hpending⟩ := ahead_of_rest_nil h
  rw [next, hahead]
  exact fetch_nil hpending

end Stream

instance : Lawful Stream where
  rest := Stream.rest
  ending := Stream.ending
  left_eq := Stream.left_eq
  peek_cons h := by
    obtain ⟨t', hpeek, hrest, -, hfollows⟩ := Stream.peek_cons h
    exact ⟨t', hpeek, hrest, hfollows.ending⟩
  next_cons h := by
    obtain ⟨t', hnext, hrest, -, hfollows⟩ := Stream.next_cons h
    exact ⟨t', hnext, hrest, hfollows.ending⟩
  peek_nil := Stream.peek_nil
  next_nil := Stream.next_nil

end ClassDiagram.Json
