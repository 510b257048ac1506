import ClassDiagram.Proofs.Json.Programs
import ClassDiagram.Proofs.Json.Runs

/-! # One reader on two sources

What a reader does on two sources is compared by a `Pairing`: it says which states of the sources
stand side by side, and which faults correspond.  A pairing that is kept by single bytes and by
refusals (`Pairing.Steady`) is kept by what is put together from them.  If it is kept by the end of
a list and by strings as well (`Pairing.Lawful`), it is kept by every program (`Program.meets`).
This is the only induction over programs; the laws of readers are pairings.

* A slice and a stream of the same bytes run in lock step (`Slice.inStep`).
* A stream that fails decides what the stream of the whole input decides (`Stream.cutShort`).
* A stream beside itself never leaves its input (`Stream.within`). -/

namespace ClassDiagram.Json

variable {κ κ' α β σ : Type}

/-- How the states and the faults of two sources are compared. -/
structure Pairing (κ κ' : Type) where
  /-- The sources stand side by side; the flag tells whether the next byte is known to have been
  looked at, or to be missing. -/
  Abreast : Bool → κ → κ' → Prop
  /-- The faults correspond, and so do the states in which they leave the sources. -/
  Alike : Fault → κ → Fault → κ' → Prop
  /-- After such a fault of the first source, nothing is said of the second one. -/
  Excused : Fault → Prop

namespace Pairing

/-- How two runs may end. -/
inductive Meets (P : Pairing κ κ') (b : Bool) :
    EStateM.Result Fault κ α → EStateM.Result Fault κ' α → Prop where
  | ok (a : α) {c : κ} {c' : κ'} : P.Abreast b c c' → P.Meets b (.ok a c) (.ok a c')
  | alike {fault fault' : Fault} {c : κ} {c' : κ'} : P.Alike fault c fault' c' →
      P.Meets b (.error fault c) (.error fault' c')
  | excused {fault : Fault} {c : κ} {o : EStateM.Result Fault κ' α} : P.Excused fault →
      P.Meets b (.error fault c) o

variable {P : Pairing κ κ'}

/-- If faults leave the sources side by side, all runs do. -/
theorem Meets.stopped {o : EStateM.Result Fault κ α} {o' : EStateM.Result Fault κ' α}
    (h : P.Meets false o o')
    (halike : ∀ {fault fault' c c'}, P.Alike fault c fault' c' → P.Abreast false c c')
    (hexcused : ∀ fault, ¬ P.Excused fault) :
    P.Abreast false (Reader.stopped o) (Reader.stopped o') := by
  cases h with
  | ok a h => exact h
  | alike h => exact halike h
  | excused h => exact absurd h (hexcused _)

variable [Source κ] [Source κ']

/-- Runs of the reader on sources that stand side by side end so that they correspond. -/
def Keeps (P : Pairing κ κ') (b b' : Bool) (r : Reader α) : Prop :=
  ∀ c c', P.Abreast b c c' → P.Meets b' (r.run c) (r.run c')

/-- What a pairing must fulfil for single bytes and for refusals. -/
structure Steady (P : Pairing κ κ') : Prop where
  forget {c : κ} {c' : κ'} : P.Abreast true c c' → P.Abreast false c c'
  /-- Either both sources have moved on or none has. -/
  left_lt {c c₁ : κ} {c' c₁' : κ'} : P.Abreast false c c' → P.Abreast false c₁ c₁' →
    (Source.left c₁' < Source.left c' ↔ Source.left c₁ < Source.left c)
  peekByte : P.Keeps false true .peekByte
  next : P.Keeps false false .next
  refuse {c : κ} {c' : κ'} (cause : Cause) : P.Abreast false c c' →
    P.Alike (.refused cause (some (Source.place c))) c
      (.refused cause (some (Source.place c'))) c'
  refuseNext {c : κ} {c' : κ'} (cause : Cause) : P.Abreast true c c' →
    P.Alike (.refused cause (some (Source.peekPlace c))) c
      (.refused cause (some (Source.peekPlace c'))) c'
  refuseShape {c : κ} {c' : κ'} (cause : Cause) : P.Abreast false c c' →
    P.Alike (.refused cause none) c (.refused cause none) c'
  /-- A fault may be given its place. -/
  placed {fault fault' : Fault} {c : κ} {c' : κ'} : P.Alike fault c fault' c' →
    P.Alike (fault.placedAt (Source.place c)) c (fault'.placedAt (Source.place c')) c'
  excused_placed {fault : Fault} (place : Text.Position) : P.Excused fault →
    P.Excused (fault.placedAt place)
  /-- A closing bracket may be looked for behind a fault. -/
  later {fault fault' : Fault} {c : κ} {c' : κ'} {close : Reader Unit} :
    P.Alike fault c fault' c' →
    (P.Abreast false c c' → P.Meets false (close.run c) (close.run c')) →
    P.Alike fault (Reader.stopped (close.run c)) fault' (Reader.stopped (close.run c'))

/-- A pairing that is kept by the readers with a rule of their own, too. -/
structure Lawful (P : Pairing κ κ') : Prop extends P.Steady where
  endList : P.Keeps false false .endList
  string : P.Keeps false false .stringBody → P.Keeps false false .stringRest

/-! ### Combinators -/

section

variable {b b₁ b' : Bool}

theorem Steady.abreast (hP : P.Steady) {c : κ} {c' : κ'} (h : P.Abreast b c c') :
    P.Abreast false c c' := by
  cases b with
  | false => exact h
  | true => exact hP.forget h

theorem Steady.abreast_of_le (hP : P.Steady) {c : κ} {c' : κ'} (hle : b' ≤ b)
    (h : P.Abreast b c c') : P.Abreast b' c c' := by
  cases b' with
  | false => exact hP.abreast h
  | true => exact (Bool.le_antisymm hle (Bool.le_true b)) ▸ h

theorem Steady.meets_of_le (hP : P.Steady) {o : EStateM.Result Fault κ α}
    {o' : EStateM.Result Fault κ' α} (hle : b' ≤ b) (h : P.Meets b o o') : P.Meets b' o o' := by
  cases h with
  | ok a h => exact .ok a (hP.abreast_of_le hle h)
  | alike h => exact .alike h
  | excused h => exact .excused h

theorem Keeps.pure (a : α) : P.Keeps b b (pure a) := fun _ _ hc => .ok a hc

theorem Meets.bind {r : Reader α} {f : α → Reader β} {c : κ} {c' : κ'}
    (hr : P.Meets b₁ (r.run c) (r.run c'))
    (hf : ∀ a c₁ c₁', r.run c = .ok a c₁ → r.run c' = .ok a c₁' → P.Abreast b₁ c₁ c₁' →
      P.Meets b' ((f a).run c₁) ((f a).run c₁')) :
    P.Meets b' ((r >>= f).run c) ((r >>= f).run c') := by
  generalize hout : r.run c = out at hr
  generalize hout' : r.run c' = out' at hr
  cases hr with
  | ok a h =>
    rw [Reader.run_bind_of_ok f hout, Reader.run_bind_of_ok f hout']
    exact hf a _ _ hout hout' h
  | alike h =>
    rw [Reader.run_bind_of_error f hout, Reader.run_bind_of_error f hout']
    exact .alike h
  | excused h =>
    rw [Reader.run_bind_of_error f hout]
    exact .excused h

theorem Keeps.bind {r : Reader α} {f : α → Reader β} (hr : P.Keeps b b₁ r)
    (hf : ∀ a, P.Keeps b₁ b' (f a)) : P.Keeps b b' (r >>= f) :=
  fun c c' hc => (hr c c' hc).bind fun a c₁ c₁' _ _ h => hf a c₁ c₁' h

theorem Keeps.placing (hP : P.Steady) {r : Reader α} (hr : P.Keeps b b' r) :
    P.Keeps b b' (.placing r) := by
  intro c c' hc
  have h := hr c c' hc
  generalize hout : r.run c = out at h
  generalize hout' : r.run c' = out' at h
  cases h with
  | ok a h =>
    rw [Reader.run_placing_of_ok hout, Reader.run_placing_of_ok hout']
    exact .ok a h
  | alike h =>
    rw [Reader.run_placing_of_error hout, Reader.run_placing_of_error hout']
    exact .alike (hP.placed h)
  | excused h =>
    rw [Reader.run_placing_of_error hout]
    exact .excused (hP.excused_placed _ h)

/-- The closing bracket is looked for behind a value and behind a fault. -/
theorem Keeps.closing (hP : P.Steady) {r : Reader α} {close : Reader Unit} (hr : P.Keeps b b₁ r)
    (hclose : P.Keeps false b' close) : P.Keeps b b' (.closing r close) := by
  intro c c' hc
  have h := hr c c' hc
  generalize hout : r.run c = out at h
  generalize hout' : r.run c' = out' at h
  cases h with
  | @ok a c₁ c₁' h =>
    have hend := hclose c₁ c₁' (hP.abreast h)
    generalize hclosed : close.run c₁ = closed at hend
    generalize hclosed' : close.run c₁' = closed' at hend
    cases hend with
    | ok _ hend =>
      rw [Reader.run_closing_of_ok hout hclosed, Reader.run_closing_of_ok hout' hclosed']
      exact .ok a hend
    | alike hend =>
      rw [Reader.run_closing_of_open hout hclosed, Reader.run_closing_of_open hout' hclosed']
      exact .alike hend
    | excused hend =>
      rw [Reader.run_closing_of_open hout hclosed]
      exact .excused hend
  | @alike fault fault' c₁ c₁' h =>
    rw [Reader.run_closing_of_error hout, Reader.run_closing_of_error hout']
    exact .alike (hP.later h fun habreast =>
      hP.meets_of_le (Bool.false_le b') (hclose c₁ c₁' habreast))
  | excused h =>
    rw [Reader.run_closing_of_error hout]
    exact .excused h

/-- A repetition is the step and, as long as bytes are taken, the repetition again. -/
theorem Keeps.repeating (hP : P.Steady) {step : σ → Reader (Step σ α)}
    (hstep : ∀ s, P.Keeps false false (step s)) (state : σ) :
    P.Keeps false false (.repeating step state) := by
  intro c c' hc
  induction hn : Source.left c using Nat.strongRecOn generalizing c c' state with
  | ind n ih =>
    have h := hstep state c c' hc
    generalize hout : (step state).run c = out at h
    generalize hout' : (step state).run c' = out' at h
    cases h with
    | @ok result c₁ c₁' h =>
      cases result with
      | done a =>
        rw [Reader.run_repeating_of_done hout, Reader.run_repeating_of_done hout']
        exact .ok a h
      | again state' =>
        rw [Reader.run_repeating_of_again hout, Reader.run_repeating_of_again hout']
        simp only [hP.left_lt hc h]
        split
        · rename_i hlt
          exact ih (Source.left c₁) (hn ▸ hlt) state' c₁ c₁' h rfl
        · exact .alike (hP.refuse _ h)
    | alike h =>
      rw [Reader.run_repeating_of_error hout, Reader.run_repeating_of_error hout']
      exact .alike h
    | excused h =>
      rw [Reader.run_repeating_of_error hout]
      exact .excused h

/-! ### Blanks -/

theorem Steady.keeps_next (hP : P.Steady) : P.Keeps b false .next :=
  fun c c' hc => hP.next c c' (hP.abreast hc)

theorem Steady.keeps_peekByte (hP : P.Steady) : P.Keeps b true .peekByte :=
  fun c c' hc => hP.peekByte c c' (hP.abreast hc)

theorem Steady.keeps_pure (hP : P.Steady) (a : α) : P.Keeps b false (pure a) :=
  fun _ _ hc => .ok a (hP.abreast hc)

theorem Steady.keeps_refuseNext (hP : P.Steady) (cause : Cause) :
    P.Keeps true b (.refuseNext cause : Reader α) :=
  fun _ _ hc => .alike (hP.refuseNext cause hc)

theorem Steady.keeps_advance (hP : P.Steady) : P.Keeps b false .advance :=
  hP.keeps_next.bind fun _ => .pure ()

theorem Steady.keeps_span (hP : P.Steady) (p : UInt8 → Bool) :
    P.Keeps false false (.span p) := by
  refine .repeating hP (fun taken => hP.keeps_peekByte.bind fun b => ?_) []
  split
  · split
    · exact hP.keeps_advance.bind fun _ => .pure _
    · exact hP.keeps_pure _
  · exact hP.keeps_pure _

theorem Steady.keeps_peekToken (hP : P.Steady) : P.Keeps false true .peekToken :=
  (hP.keeps_span _).bind fun _ => hP.keeps_peekByte.bind fun _ => .pure _

/-- At the end of a list only what comes behind a comma is left to be shown. -/
theorem Steady.keeps_endList (hP : P.Steady) (hcomma : P.Keeps false false .refuseComma) :
    P.Keeps false false .endList := by
  refine hP.keeps_peekToken.bind fun token => ?_
  split
  · exact hP.keeps_advance
  · exact hP.keeps_advance.bind fun _ => hcomma
  · exact hP.keeps_refuseNext _
  · exact hP.keeps_refuseNext _

end

end Pairing

/-! ### All readers -/

variable [Source κ] [Source κ'] {P : Pairing κ κ'}

/-- **A lawful pairing is kept by every program.** -/
theorem Reader.Program.meets (hP : P.Lawful) {b b' : Bool} {r : Reader α} (hr : Program b b' r) :
    P.Keeps b b' r := by
  induction hr with
  | pure a => exact .pure a
  | bind _ _ hr hf => exact hr.bind hf
  | peekByte => exact hP.keeps_peekByte
  | next => exact hP.keeps_next
  | refuse cause => exact fun c c' hc => .alike (hP.refuse cause (hP.abreast hc))
  | refuseNext cause => exact hP.keeps_refuseNext cause
  | refuseShape cause => exact fun c c' hc => .alike (hP.refuseShape cause (hP.abreast hc))
  | placing _ hr => exact hr.placing hP.toSteady
  | closing _ _ hr hclose => exact hr.closing hP.toSteady hclose
  | repeating state _ hstep =>
    exact fun c c' hc => Pairing.Keeps.repeating hP.toSteady hstep state c c' (hP.abreast hc)
  | endList => exact fun c c' hc => hP.endList c c' (hP.abreast hc)
  | string _ hbody => exact fun c c' hc => hP.string hbody c c' (hP.abreast hc)
  | weaken hle hle' _ hr =>
    exact fun c c' hc => hP.meets_of_le hle' (hr c c' (hP.abreast_of_le hle hc))

end ClassDiagram.Json
