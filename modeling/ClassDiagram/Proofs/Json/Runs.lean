import ClassDiagram.Json.Reader
import ClassDiagram.Proofs.Json.Sources
import ClassDiagram.Proofs.Json.Spelling

/-! # Successful runs of readers

`Runs r input a rest` says that the reader `r`, on any source that stands in front of the bytes
`input` of a closed document, yields `a` and stops in front of `rest`.  A reader that does not come
to the end of the document does so whatever the ending is.

Each way to touch a source has one lemma here (`runs_peek`, `runs_next`, `runs_span`, …), and so has
each way to combine readers (`Runs.bind`, `Runs.placing`, `Runs.closing`, `Runs.again`); about a
successful run nothing else is ever unfolded. -/

namespace ClassDiagram.Json.Reader

variable {κ α β σ : Type}

/-! ### Equations of runs -/

section

variable [Source κ] {c c' c'' : κ} {a : α} {fault : Fault}

theorem run_bind_of_ok {r : Reader α} (f : α → Reader β) (h : r.run c = .ok a c') :
    (r >>= f).run c = (f a).run c' := by
  show EStateM.bind r.run (fun a => (f a).run) c = _
  rw [EStateM.bind, h]

theorem run_bind_of_error {r : Reader α} (f : α → Reader β) (h : r.run c = .error fault c') :
    (r >>= f).run c = .error fault c' := by
  show EStateM.bind r.run (fun a => (f a).run) c = _
  rw [EStateM.bind, h]

/-- A sequence that yields a value has yielded one before. -/
theorem run_bind_eq_ok {r : Reader α} {f : α → Reader β} {b : β}
    (h : (r >>= f).run c = .ok b c') : ∃ a c₁, r.run c = .ok a c₁ ∧ (f a).run c₁ = .ok b c' := by
  cases hr : r.run c with
  | ok a c₁ => exact ⟨a, c₁, rfl, run_bind_of_ok f hr ▸ h⟩
  | error fault c₁ =>
    rw [run_bind_of_error f hr] at h
    cases h

theorem run_placing_of_ok {r : Reader α} (h : r.run c = .ok a c') :
    (placing r).run c = .ok a c' := by
  show placed r.run c = _
  rw [placed, h]

theorem run_placing_of_error {r : Reader α} (h : r.run c = .error fault c') :
    (placing r).run c = .error (fault.placedAt (Source.place c')) c' := by
  show placed r.run c = _
  rw [placed, h]

theorem run_attempt_of_ok {r : Reader α} (h : r.run c = .ok a c') :
    (attempt r).run c = .ok (some a) c' := by
  show attempted r.run c = _
  rw [attempted, h]

theorem run_attempt_of_error {r : Reader α} (h : r.run c = .error fault c') :
    (attempt r).run c = .ok none c' := by
  show attempted r.run c = _
  rw [attempted, h]

variable {r : Reader α} {close : Reader Unit}

theorem run_closing_of_ok (h : r.run c = .ok a c') (hclose : close.run c' = .ok () c'') :
    (closing r close).run c = .ok a c'' := by
  show closed r.run close.run c = _
  simp only [closed, h, hclose]

theorem run_closing_of_open (h : r.run c = .ok a c') (hclose : close.run c' = .error fault c'') :
    (closing r close).run c = .error fault c'' := by
  show closed r.run close.run c = _
  simp only [closed, h, hclose]

theorem run_closing_of_error (h : r.run c = .error fault c') :
    (closing r close).run c = .error fault (stopped (close.run c')) := by
  show closed r.run close.run c = _
  rw [closed, h]

variable {step : σ → Reader (Step σ α)} {state state' : σ}

theorem run_repeating_of_done (h : (step state).run c = .ok (.done a) c') :
    (repeating step state).run c = .ok a c' := by
  show repeated (fun state => (step state).run) state c = _
  rw [repeated, h]

theorem run_repeating_of_again (h : (step state).run c = .ok (.again state') c') :
    (repeating step state).run c =
      if Source.left c' < Source.left c then (repeating step state').run c'
      else .error (.refused .valueExpected (some (Source.place c'))) c' := by
  show repeated (fun state => (step state).run) state c = _
  rw [repeated, h]
  rfl

theorem run_repeating_of_error (h : (step state).run c = .error fault c') :
    (repeating step state).run c = .error fault c' := by
  show repeated (fun state => (step state).run) state c = _
  rw [repeated, h]

/-- A repetition that yields a value is done, or it goes on from behind one more step. -/
theorem run_repeating_eq_ok (h : (repeating step state).run c = .ok a c') :
    (step state).run c = .ok (.done a) c' ∨
      ∃ state' c₁, (step state).run c = .ok (.again state') c₁ ∧
        Source.left c₁ < Source.left c ∧ (repeating step state').run c₁ = .ok a c' := by
  cases hstep : (step state).run c with
  | ok result c₁ =>
    cases result with
    | done a' =>
      rw [run_repeating_of_done hstep] at h
      cases h
      exact .inl rfl
    | again state' =>
      rw [run_repeating_of_again hstep] at h
      split at h
      · rename_i hlt
        exact .inr ⟨state', c₁, rfl, hlt, h⟩
      · cases h
  | error fault c₁ =>
    rw [run_repeating_of_error hstep] at h
    cases h

end

/-! ### Successful runs -/

/-- In front of `input` the reader yields `a` and leaves `rest`. -/
def Runs (r : Reader α) (input : List UInt8) (a : α) (rest : List UInt8)
    (ending : Ending := .closed) : Prop :=
  ∀ ⦃κ : Type⦄ [Source κ] [Lawful κ] (c : κ), Lawful.rest c = input → Lawful.ending c = ending →
    ∃ c', r.run c = .ok a c' ∧ Lawful.rest c' = rest ∧ Lawful.ending c' = ending

variable {input rest rest' : List UInt8} {ending : Ending} {a : α} {b : β}

/-! ### Sequences -/

theorem Runs.pure (a : α) (input : List UInt8) : Runs (pure a) input a input ending :=
  fun _ _ _ c hc he => ⟨c, rfl, hc, he⟩

theorem Runs.bind {r : Reader α} {f : α → Reader β} (hr : Runs r input a rest ending)
    (hf : Runs (f a) rest b rest' ending) : Runs (r >>= f) input b rest' ending := by
  intro κ _ _ c hc he
  obtain ⟨c₁, h₁, hc₁, he₁⟩ := hr c hc he
  obtain ⟨c₂, h₂, hc₂, he₂⟩ := hf c₁ hc₁ he₁
  exact ⟨c₂, (run_bind_of_ok f h₁).trans h₂, hc₂, he₂⟩

theorem Runs.map {r : Reader α} (f : α → β) (hr : Runs r input a rest ending) :
    Runs (f <$> r) input (f a) rest ending :=
  hr.bind (.pure (f a) rest)

/-! ### Single bytes and blanks -/

theorem runs_peekByte (b : UInt8) (rest : List UInt8) :
    Runs peekByte (b :: rest) (some b) (b :: rest) ending := by
  intro κ _ _ c hc he
  obtain ⟨c', hpeek, hrest, hending⟩ := Lawful.peek_cons hc
  exact ⟨c', hpeek, hrest, hending.trans he⟩

theorem runs_peekByte_end : Runs peekByte [] none [] := by
  intro κ _ _ c hc he
  refine ⟨c, ?_, hc, he⟩
  show Source.peek c = _
  rw [Lawful.peek_nil hc, he]
  rfl

theorem runs_next (b : UInt8) (rest : List UInt8) :
    Runs next (b :: rest) (some b) rest ending := by
  intro κ _ _ c hc he
  obtain ⟨c', hnext, hrest, hending⟩ := Lawful.next_cons hc
  exact ⟨c', hnext, hrest, hending.trans he⟩

theorem runs_peek (b : UInt8) (rest : List UInt8) :
    Runs peek (b :: rest) (some (Char.ofUInt8 b)) (b :: rest) ending :=
  (runs_peekByte b rest).bind (.pure _ _)

theorem runs_peek_end : Runs peek [] none [] := runs_peekByte_end.bind (.pure _ _)

theorem runs_advance (b : UInt8) (rest : List UInt8) : Runs advance (b :: rest) () rest ending :=
  (runs_next b rest).bind (.pure () rest)

/-! ### Brackets around readers, and repetition -/

theorem Runs.placing {r : Reader α} (hr : Runs r input a rest ending) :
    Runs (placing r) input a rest ending := by
  intro κ _ _ c hc he
  obtain ⟨c₁, h₁, hc₁, he₁⟩ := hr c hc he
  exact ⟨c₁, run_placing_of_ok h₁, hc₁, he₁⟩

theorem Runs.closing {r : Reader α} {close : Reader Unit} (hr : Runs r input a rest ending)
    (hclose : Runs close rest () rest' ending) : Runs (closing r close) input a rest' ending := by
  intro κ _ _ c hc he
  obtain ⟨c₁, h₁, hc₁, he₁⟩ := hr c hc he
  obtain ⟨c₂, h₂, hc₂, he₂⟩ := hclose c₁ hc₁ he₁
  exact ⟨c₂, run_closing_of_ok h₁ h₂, hc₂, he₂⟩

variable {step : σ → Reader (Step σ α)} {state state' : σ}

theorem Runs.done (h : Runs (step state) input (.done a) rest ending) :
    Runs (repeating step state) input a rest ending := by
  intro κ _ _ c hc he
  obtain ⟨c₁, h₁, hc₁, he₁⟩ := h c hc he
  exact ⟨c₁, run_repeating_of_done h₁, hc₁, he₁⟩

/-- A step that is to be repeated, and the repetition from there. -/
theorem Runs.again (h : Runs (step state) input (.again state') rest ending)
    (hlt : rest.length < input.length) (hrep : Runs (repeating step state') rest a rest' ending) :
    Runs (repeating step state) input a rest' ending := by
  intro κ _ _ c hc he
  obtain ⟨c₁, h₁, hc₁, he₁⟩ := h c hc he
  obtain ⟨c₂, h₂, hc₂, he₂⟩ := hrep c₁ hc₁ he₁
  refine ⟨c₂, ?_, hc₂, he₂⟩
  have hleft : Source.left c₁ < Source.left c := by
    rw [Lawful.left_eq, Lawful.left_eq, hc, hc₁]
    exact hlt
  rw [run_repeating_of_again h₁, if_pos hleft, h₂]

/-! ### Runs of bytes -/

/-- A span takes a run of bytes if it stops behind it. -/
theorem runs_repeating_spanStep {p : UInt8 → Bool} {run : List UInt8}
    (hrun : ∀ b ∈ run, p b = true)
    (hstop : ∀ taken, Runs (spanStep p taken) rest (.done taken.reverse) rest ending)
    (taken : List UInt8) :
    Runs (repeating (spanStep p) taken) (run ++ rest) (taken.reverse ++ run) rest ending := by
  induction run generalizing taken with
  | nil =>
    rw [List.append_nil]
    exact (hstop taken).done
  | cons b run ih =>
    obtain ⟨hb, hrun⟩ := List.forall_mem_cons.mp hrun
    have hstep : Runs (spanStep p taken) (b :: (run ++ rest)) (.again (b :: taken))
        (run ++ rest) ending := by
      refine (runs_peekByte b _).bind ?_
      simp only [if_pos hb]
      exact (runs_advance b _).bind (.pure _ _)
    have hrep := ih hrun (b :: taken)
    rw [List.reverse_cons, List.append_assoc, List.singleton_append] at hrep
    exact hstep.again (Nat.lt_succ_self _) hrep

/-- A span stops in front of a byte without the property. -/
theorem runs_spanStep_stop {p : UInt8 → Bool} {b : UInt8} (hb : p b = false)
    (rest taken : List UInt8) :
    Runs (spanStep p taken) (b :: rest) (.done taken.reverse) (b :: rest) ending := by
  refine (runs_peekByte b rest).bind ?_
  simp only [hb, Bool.false_eq_true, if_false]
  exact .pure _ _

/-- A span takes all bytes up to the first one without the property. -/
theorem runs_span {p : UInt8 → Bool} {run : List UInt8} (hrun : ∀ b ∈ run, p b = true)
    (hrest : rest.takeWhile p = []) : Runs (span p) (run ++ rest) run rest := by
  refine runs_repeating_spanStep hrun (fun taken => ?_) []
  cases rest with
  | nil => exact runs_peekByte_end.bind (.pure _ [])
  | cons b rest =>
    cases hb : p b with
    | false => exact runs_spanStep_stop hb rest taken
    | true =>
      rw [List.takeWhile_cons_of_pos hb] at hrest
      cases hrest

theorem isBlank_of_mem {gap : List UInt8} (hgap : Blank gap) : ∀ b ∈ gap, isBlank b = true := by
  intro b hb
  rcases hgap b hb with rfl | rfl | rfl | rfl <;> rfl

theorem runs_peekToken {gap : List UInt8} (hgap : Blank gap) {b : UInt8}
    (hb : isBlank b = false) (rest : List UInt8) :
    Runs peekToken (gap ++ b :: rest) (some (Char.ofUInt8 b)) (b :: rest) ending := by
  have hspan : Runs (span isBlank) (gap ++ b :: rest) gap (b :: rest) ending :=
    runs_repeating_spanStep (isBlank_of_mem hgap) (runs_spanStep_stop hb rest) []
  exact hspan.bind (runs_peek b rest)

theorem runs_peekToken_end {gap : List UInt8} (hgap : Blank gap) :
    Runs peekToken gap none [] := by
  have hspan : Runs (span isBlank) (gap ++ []) gap [] := runs_span (isBlank_of_mem hgap) rfl
  rw [List.append_nil] at hspan
  exact hspan.bind runs_peek_end

/-- Either all bytes have the property, or a run of them is followed by one that has not. -/
theorem exists_run (p : UInt8 → Bool) (bs : List UInt8) :
    (∀ b ∈ bs, p b = true) ∨
      ∃ run b rest, (∀ b ∈ run, p b = true) ∧ p b = false ∧ bs = run ++ b :: rest := by
  induction bs with
  | nil => exact .inl (List.forall_mem_nil _)
  | cons b bs ih =>
    cases hb : p b with
    | false => exact .inr ⟨[], b, bs, List.forall_mem_nil _, hb, rfl⟩
    | true =>
      rcases ih with hall | ⟨run, b', rest, hrun, hb', rfl⟩
      · exact .inl (List.forall_mem_cons.mpr ⟨hb, hall⟩)
      · exact .inr ⟨b :: run, b', rest, List.forall_mem_cons.mpr ⟨hb, hrun⟩, hb', rfl⟩

theorem blank_of_isBlank {gap : List UInt8} (h : ∀ b ∈ gap, isBlank b = true) : Blank gap := by
  intro b hb
  have := h b hb
  simp only [isBlank, Bool.or_eq_true, beq_iff_eq] at this
  rcases this with ((h | h) | h) | h <;> simp only [h, true_or, or_true]

/-- On a closed source looking for a token does not fail. -/
theorem exists_peekToken [Source κ] [Lawful κ] (c : κ) (he : Lawful.ending c = .closed) :
    ∃ token c', peekToken.run c = .ok token c' := by
  rcases exists_run isBlank (Lawful.rest c) with hall | ⟨gap, b, rest, hgap, hb, hrest⟩
  · obtain ⟨c', hrun, -, -⟩ := runs_peekToken_end (blank_of_isBlank hall) c rfl he
    exact ⟨_, c', hrun⟩
  · obtain ⟨c', hrun, -, -⟩ := runs_peekToken (blank_of_isBlank hgap) hb rest c hrest he
    exact ⟨_, c', hrun⟩

end ClassDiagram.Json.Reader
