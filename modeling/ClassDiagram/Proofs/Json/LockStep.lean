import ClassDiagram.Proofs.Json.Places

/-! # Slices and streams in lock step

A slice and a stream of the same bytes run every reader alike (`Slice.lawful_inStep`).  The two
stand behind the same number of bytes, while the stream may have fetched one more to look at it.
They yield the same value, or they refuse for the same cause.

Where the byte that was looked at is to blame, both tell the place behind it: the slice adds one to
its index, the stream has counted the byte already.  This is where a program has to keep to what it
promises about looking first.  Where no byte is to blame, the slice tells its index, and the stream
the bytes that it has fetched, so that it may be one ahead. -/

namespace ClassDiagram.Json

/-- The slice and the closed stream stand behind the same bytes of the input; if the flag is set,
the stream has looked at the next byte, or there is none. -/
structure Slice.Beside (s : Slice) (input : List UInt8) (looked : Bool) (t : Stream) : Prop where
  input_eq : s.input.toList = input
  standsAt : t.StandsAt input s.index
  closed : t.ending = .closed
  looked : looked = true → (∃ b, t.ahead = some b) ∨ t.rest = []

/-- The same refusal; the offset of the second one may be one more. -/
inductive Fault.Near (input : List UInt8) : Fault → Fault → Prop where
  | shape (cause : Cause) : Near input (.refused cause none) (.refused cause none)
  | placed (cause : Cause) {p q : Nat} : q = p ∨ q = p + 1 → q ≤ input.length →
      Near input (.refused cause (some (.ofOffset input p)))
        (.refused cause (some (.ofOffset input q)))

/-- A slice beside a stream of the same bytes. -/
def Slice.inStep (input : List UInt8) : Pairing Slice Stream where
  Abreast looked s t := s.Beside input looked t
  Alike fault s fault' t := fault.Near input fault' ∧ s.Beside input false t
  Excused _ := False

namespace Slice

variable {input : List UInt8} {looked : Bool} {s : Slice} {t : Stream}

theorem beside_start (input : List UInt8) :
    (start input).Beside input false (Stream.start input .closed) :=
  ⟨rfl, Stream.standsAt_start input .closed, rfl, nofun⟩

namespace Beside

theorem unlooked (h : s.Beside input looked t) : s.Beside input false t :=
  ⟨h.input_eq, h.standsAt, h.closed, nofun⟩

theorem rest_eq (h : s.Beside input looked t) : s.rest = t.rest := by
  rw [h.standsAt.rest, ← h.input_eq]
  rfl

theorem left_eq (h : s.Beside input looked t) : Source.left t = Source.left s := by
  rw [Stream.left_eq, Slice.left_eq, h.rest_eq]

theorem standing (h : s.Beside input looked t) : t.Standing input .closed :=
  ⟨h.closed, _, h.standsAt⟩

theorem place_eq (h : s.Beside input looked t) :
    Source.place s = .ofOffset input s.index := by
  rw [← h.input_eq]
  rfl

/-- The stream tells the place of the slice, or that of the byte behind it. -/
theorem near (h : s.Beside input looked t) (cause : Cause) :
    (inStep input).Alike (.refused cause (some (Source.place s))) s
      (.refused cause (some (Source.place t))) t := by
  refine ⟨?_, h.unlooked⟩
  rw [h.place_eq, show Source.place t = .ofOffset input _ from h.standsAt.place]
  refine .placed cause ?_ h.standsAt.fetched_le
  cases t.ahead with
  | none => exact .inl rfl
  | some b => exact .inr rfl

/-- Once the next byte has been looked at, both tell the place behind it. -/
theorem peekPlace_eq (h : s.Beside input true t) :
    Source.peekPlace s = .ofOffset input (s.index + t.ahead.toList.length) := by
  have hsize : s.input.size = input.length := by rw [← h.input_eq, Array.length_toList]
  have hle := h.standsAt.fetched_le
  show s.position (min s.input.size (s.index + 1)) = _
  rw [position, h.input_eq, hsize]
  rcases h.looked rfl with ⟨b, hahead⟩ | hrest
  · rw [hahead] at hle ⊢
    rw [Nat.min_eq_right (show s.index + 1 ≤ input.length from hle)]
    rfl
  · have hend := List.drop_eq_nil_iff.mp (h.standsAt.rest.symm.trans hrest)
    have hindex := hsize ▸ s.index_le
    rw [(Stream.ahead_of_rest_nil hrest).1, Nat.min_eq_left (by omega)]
    exact congrArg (Text.Position.ofOffset input) (by simp; omega)

end Beside

theorem steady_inStep : (inStep input).Steady where
  forget := Beside.unlooked
  left_lt h h₁ := by rw [h.left_eq, h₁.left_eq]
  peekByte := by
    intro s t h
    show (inStep input).Meets true s.peek t.peek
    cases hrest : t.rest with
    | nil =>
      rw [Stream.peek_nil hrest, h.closed, peek, getElem?_of_rest_nil (h.rest_eq.trans hrest)]
      exact .ok none { h with looked := fun _ => .inr hrest }
    | cons b bs =>
      obtain ⟨t', hpeek, -, hahead, hfollows⟩ := Stream.peek_cons hrest
      rw [hpeek, peek, getElem?_of_rest (h.rest_eq.trans hrest)]
      exact .ok _ ⟨h.input_eq, hfollows.standsAt h.standsAt, hfollows.ending.trans h.closed,
        fun _ => .inl ⟨b, hahead⟩⟩
  next := by
    intro s t h
    show (inStep input).Meets false s.next t.next
    cases hrest : t.rest with
    | nil =>
      rw [Stream.next_nil hrest, h.closed, next_of_rest_nil (h.rest_eq.trans hrest)]
      exact .ok none h
    | cons b bs =>
      obtain ⟨t', hnext, -, -, hfollows⟩ := Stream.next_cons hrest
      obtain ⟨s', hnext', -, hinput, hindex⟩ := next_of_rest (h.rest_eq.trans hrest)
      rw [hnext, hnext']
      exact .ok _ ⟨hinput ▸ h.input_eq, hindex ▸ hfollows.standsAt h.standsAt,
        hfollows.ending.trans h.closed, nofun⟩
  refuse cause h := h.near cause
  refuseNext cause h := by
    refine ⟨?_, h.unlooked⟩
    rw [h.peekPlace_eq, show Source.peekPlace _ = .ofOffset input _ from h.standsAt.place]
    exact .placed cause (.inl rfl) h.standsAt.fetched_le
  refuseShape cause h := ⟨.shape cause, h⟩
  placed h := by
    obtain ⟨hnear, hbeside⟩ := h
    cases hnear with
    | shape cause => exact hbeside.near cause
    | placed cause hoffset hle => exact ⟨.placed cause hoffset hle, hbeside⟩
  excused_placed _ h := h
  later h hclose := ⟨h.1, (hclose h.2).stopped (fun h => h.2) fun _ => id⟩

/-- A closed source has a next token, or none, but it does not fail. -/
theorem keeps_refuseComma : (inStep input).Keeps false false .refuseComma := by
  intro s t h
  have hpeek := steady_inStep.keeps_peekToken s t h
  obtain ⟨token, s', hrun⟩ := Reader.exists_peekToken s rfl
  generalize hrun' : Reader.peekToken.run t = out at hpeek
  rw [hrun] at hpeek
  cases hpeek with
  | ok _ h' =>
    unfold Reader.refuseComma
    rw [Reader.run_bind_of_ok _ (Reader.run_attempt_of_ok hrun),
      Reader.run_bind_of_ok _ (Reader.run_attempt_of_ok hrun')]
    split <;> exact .alike (steady_inStep.refuseNext _ h')

/-- **A slice and a stream of the same bytes run in lock step.** -/
theorem lawful_inStep : (inStep input).Lawful where
  toSteady := steady_inStep
  endList := steady_inStep.keeps_endList keeps_refuseComma
  string hbody := by
    intro s t h
    refine (hbody s t h).bind fun body s₁ t₁ hrun hrun' h₁ => ?_
    cases Text.decode body with
    | ok _ => exact .ok _ h₁
    | error good =>
      -- no byte has been looked at behind the closing quote, so the two tell the same place
      obtain ⟨hplace, -, hback⟩ := Stream.back_of_stringBody h.standing h₁.standing hrun'
        (Nat.sub_le body.length good)
      have hsame : Source.place s₁ = t₁.place := by
        rw [h₁.place_eq, hplace, h₁.standsAt.index_eq]
      refine .alike ⟨?_, h₁⟩
      rw [hsame, show Source.place t₁ = t₁.place from rfl, hback]
      exact .placed _ (.inl rfl) (Nat.sub_le _ _)

end Slice

end ClassDiagram.Json
