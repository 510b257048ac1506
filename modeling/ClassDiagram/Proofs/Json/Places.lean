import ClassDiagram.Proofs.Json.Pairings

/-! # Places of refusals

Wherever a stream refuses its input, the place is one in the input (`Stream.lawful_within`), and the
refusal of a document always has a place (`placed_document`).  Most places are reached by moving on,
and then there is nothing to show.  Only a string is refused at a place behind which the source
already stands: the place is counted back from the closing quote, by as many bytes as the string
denotes from the first offending one on.  These are bytes that the string *denotes*, while the place
is one among the bytes that *spell* it.

An escape never denotes more bytes than it is spelled with, and no line ends inside of a string
(`passes_stringBody`).  Hence counting back stays within the string and within its line. -/

namespace ClassDiagram.Json

variable {κ α β σ : Type}

section

variable [Source κ] [Lawful κ]

/-- From `c` to `c'` at least `n` bytes are passed, and no line ends there. -/
def Passes (n : Nat) (c c' : κ) : Prop :=
  ∃ passed, Lawful.rest c = passed ++ Lawful.rest c' ∧ Text.newline ∉ passed ∧ n ≤ passed.length

namespace Passes

variable {c c₁ c₂ : κ} {m n : Nat}

theorem trans (h : Passes m c c₁) (h₁ : Passes n c₁ c₂) : Passes (m + n) c c₂ := by
  obtain ⟨passed, hrest, hline, hlength⟩ := h
  obtain ⟨passed₁, hrest₁, hline₁, hlength₁⟩ := h₁
  refine ⟨passed ++ passed₁, ?_, ?_, ?_⟩
  · rw [hrest, hrest₁, List.append_assoc]
  · rw [List.mem_append, not_or]
    exact ⟨hline, hline₁⟩
  · rw [List.length_append]
    omega

theorem mono (h : Passes n c c₁) (hm : m ≤ n) : Passes m c c₁ := by
  obtain ⟨passed, hrest, hline, hlength⟩ := h
  exact ⟨passed, hrest, hline, by omega⟩

/-- Going back over the bytes that were passed is going back in the column. -/
theorem back_ofOffset {input : List UInt8} (hc : Lawful.rest c <:+ input) (h : Passes n c c₁) :
    Source.left c₁ + n ≤ input.length ∧
      n ≤ (Text.Position.ofOffset input (input.length - Source.left c₁)).column ∧
      (Text.Position.ofOffset input (input.length - Source.left c₁)).back n =
        .ofOffset input (input.length - (Source.left c₁ + n)) := by
  obtain ⟨before, rfl⟩ := hc
  obtain ⟨passed, hrest, hline, hlength⟩ := h
  have hoffset : (before ++ Lawful.rest c).length - Source.left c₁ =
      before.length + passed.length := by
    rw [Lawful.left_eq, hrest, List.length_append, List.length_append]
    omega
  have hback := Text.Position.back_ofOffset before (Lawful.rest c₁) hline hlength
  rw [← hrest, ← hoffset, Nat.sub_sub] at hback
  refine ⟨?_, hback⟩
  rw [Lawful.left_eq, hrest, List.length_append, List.length_append]
  omega

end Passes

end

/-- The bytes that a string denotes up to the end of a step; a step that ends the string has passed
its closing quote as well. -/
def Step.length : Step (List UInt8) (List UInt8) → Nat
  | .again denoted => denoted.length
  | .done denoted => denoted.length + 1

namespace Reader

theorem run_pure_eq_ok [Source κ] {c c' : κ} {a b : α}
    (h : (pure a : Reader α).run c = .ok b c') : a = b ∧ c = c' := by
  cases h
  exact ⟨rfl, rfl⟩

section

variable [Source κ] [Lawful κ] {c c' : κ}

/-! ### Strings -/

theorem rest_of_nextInString {b : UInt8} (h : nextInString.run c = .ok b c') :
    Lawful.rest c = b :: Lawful.rest c' := by
  obtain ⟨b?, c₁, hnext, h⟩ := run_bind_eq_ok h
  cases b? with
  | none => cases h
  | some b =>
    obtain ⟨rfl, rfl⟩ := run_pure_eq_ok h
    exact Lawful.next_eq_ok hnext

theorem ahead_of_nextInString {b : UInt8} {t t' : Stream} (h : nextInString.run t = .ok b t') :
    t'.ahead = none := by
  obtain ⟨b?, t₁, hnext, h⟩ := run_bind_eq_ok h
  cases b? with
  | none => cases h
  | some b =>
    obtain ⟨rfl, rfl⟩ := run_pure_eq_ok h
    obtain ⟨t₂, hnext₂, -, hahead, -⟩ := Stream.next_cons (Lawful.next_eq_ok hnext)
    cases hnext.symm.trans hnext₂
    exact hahead

theorem passes_nextInString {b : UInt8} (h : nextInString.run c = .ok b c')
    (hb : b ≠ Text.newline) : Passes 1 c c' :=
  ⟨[b], rest_of_nextInString h, by simpa using hb.symm, Nat.le_refl 1⟩

theorem rest_of_advance {b : UInt8} {bs : List UInt8} (hc : Lawful.rest c = b :: bs)
    (h : advance.run c = .ok () c') : Lawful.rest c' = bs := by
  obtain ⟨c₁, hnext, hrest, -⟩ := Lawful.next_cons hc
  have hadvance : advance.run c = .ok () c₁ := run_bind_of_ok _ hnext
  rw [hadvance] at h
  cases h
  exact hrest

/-- A step of a span takes a byte with the property, or nothing. -/
theorem run_spanStep_eq_ok {p : UInt8 → Bool} {taken : List UInt8}
    {step : Step (List UInt8) (List UInt8)} (h : (spanStep p taken).run c = .ok step c') :
    (∃ b, step = .again (b :: taken) ∧ p b = true ∧ Lawful.rest c = b :: Lawful.rest c') ∨
      step = .done taken.reverse ∧ Lawful.rest c = Lawful.rest c' := by
  obtain ⟨b?, c₁, hpeek, h⟩ := run_bind_eq_ok h
  obtain ⟨hhead, hrest, -⟩ := Lawful.peek_eq_ok hpeek
  cases b? with
  | none =>
    obtain ⟨rfl, rfl⟩ := run_pure_eq_ok h
    exact .inr ⟨rfl, hrest.symm⟩
  | some b =>
    simp only at h
    split at h
    · rename_i hb
      obtain ⟨_, c₂, hadvance, h⟩ := run_bind_eq_ok h
      obtain ⟨rfl, rfl⟩ := run_pure_eq_ok h
      obtain ⟨bs, hbs⟩ := List.head?_eq_some_iff.mp hhead
      exact .inl ⟨b, rfl, hb, by rw [rest_of_advance (hrest.trans hbs) hadvance, hbs]⟩
    · obtain ⟨rfl, rfl⟩ := run_pure_eq_ok h
      exact .inr ⟨rfl, hrest.symm⟩

theorem rest_of_repeating_spanStep {p : UInt8 → Bool} {taken run : List UInt8}
    (h : (repeating (spanStep p) taken).run c = .ok run c') :
    ∃ more, run = taken.reverse ++ more ∧ Lawful.rest c = more ++ Lawful.rest c' ∧
      ∀ b ∈ more, p b = true := by
  induction hleft : Source.left c using Nat.strongRecOn generalizing c taken with
  | ind left ih =>
    rcases run_repeating_eq_ok h with hdone | ⟨taken₁, c₁, hagain, hlt, hrep⟩
    · rcases run_spanStep_eq_ok hdone with ⟨b, hstep, -⟩ | ⟨hstep, hrest⟩
      · cases hstep
      · cases hstep
        exact ⟨[], (List.append_nil _).symm, hrest, List.forall_mem_nil _⟩
    · rcases run_spanStep_eq_ok hagain with ⟨b, hstep, hb, hrest⟩ | ⟨hstep, -⟩
      · cases hstep
        obtain ⟨more, hrun, hrest₁, hmore⟩ := ih (Source.left c₁) (hleft ▸ hlt) hrep rfl
        refine ⟨b :: more, ?_, ?_, List.forall_mem_cons.mpr ⟨hb, hmore⟩⟩
        · rw [hrun, List.reverse_cons, List.append_assoc]
          rfl
        · rw [hrest, hrest₁]
          rfl
      · cases hstep

theorem passes_span_isPlain {run : List UInt8} (h : (span isPlain).run c = .ok run c') :
    Passes run.length c c' := by
  obtain ⟨more, hrun, hrest, hplain⟩ := rest_of_repeating_spanStep h
  refine ⟨more, hrest, fun hline => ?_, Nat.le_of_eq (congrArg List.length hrun)⟩
  exact absurd (hplain _ hline) (by decide)

theorem ne_newline_of_hexDigit? {b : UInt8} {n : Nat} (h : hexDigit? b = some n) :
    b ≠ Text.newline := by
  rintro rfl
  cases h

theorem ne_newline_of_ofUInt8 {b : UInt8} {letter : Char} (h : Char.ofUInt8 b = letter)
    (hletter : letter ≠ '\n') : b ≠ Text.newline := by
  rintro rfl
  exact hletter (h.symm.trans rfl)

theorem passes_hexEscape {n : Nat} (h : hexEscape.run c = .ok n c') : Passes 4 c c' := by
  obtain ⟨w, c₁, hw, h⟩ := run_bind_eq_ok h
  obtain ⟨x, c₂, hx, h⟩ := run_bind_eq_ok h
  obtain ⟨y, c₃, hy, h⟩ := run_bind_eq_ok h
  obtain ⟨z, c₄, hz, h⟩ := run_bind_eq_ok h
  cases hnumber : hexNumber? w x y z with
  | none =>
    rw [hnumber] at h
    cases h
  | some m =>
    rw [hnumber] at h
    obtain ⟨-, rfl⟩ := run_pure_eq_ok h
    simp only [hexNumber?, bind, Option.bind_eq_some_iff] at hnumber
    obtain ⟨_, hw', _, hx', _, hy', _, hz', -⟩ := hnumber
    exact (passes_nextInString hw (ne_newline_of_hexDigit? hw')).trans <|
      (passes_nextInString hx (ne_newline_of_hexDigit? hx')).trans <|
      (passes_nextInString hy (ne_newline_of_hexDigit? hy')).trans <|
      passes_nextInString hz (ne_newline_of_hexDigit? hz')

theorem passes_pairLetter {letter : Char} (hletter : letter ≠ '\n')
    (h : (pairLetter letter).run c = .ok () c') : Passes 1 c c' := by
  obtain ⟨b, c₁, hb, h⟩ := run_bind_eq_ok h
  split at h
  · rename_i hbyte
    cases h
    exact passes_nextInString hb (ne_newline_of_ofUInt8 hbyte hletter)
  · cases h

theorem passes_unicodeEscape {ch : Char} (h : unicodeEscape.run c = .ok ch c') : Passes 4 c c' := by
  obtain ⟨n, c₁, hn, h⟩ := run_bind_eq_ok h
  split at h
  · cases h
  · split at h
    · obtain ⟨_, c₂, hslash, h⟩ := run_bind_eq_ok h
      obtain ⟨_, c₃, hu, h⟩ := run_bind_eq_ok h
      obtain ⟨m, c₄, hm, h⟩ := run_bind_eq_ok h
      split at h
      · obtain ⟨-, rfl⟩ := run_pure_eq_ok h
        have hpair := (passes_pairLetter (by decide) hslash).trans
          ((passes_pairLetter (by decide) hu).trans (passes_hexEscape hm))
        exact ((passes_hexEscape hn).trans hpair).mono (by omega)
      · cases h
    · obtain ⟨-, rfl⟩ := run_pure_eq_ok h
      exact passes_hexEscape hn

/-- The characters with a short escape take one byte, and a line break is no such escape. -/
theorem length_of_shortEscape? {letter ch : Char} (h : shortEscape? letter = some ch) :
    (String.utf8EncodeChar ch).length = 1 ∧ letter ≠ '\n' := by
  unfold shortEscape? at h
  split at h
  all_goals cases h
  all_goals exact ⟨rfl, by decide⟩

/-- An escape is spelled with at least as many bytes as it denotes. -/
theorem passes_escape {ch : Char} (h : escape.run c = .ok ch c') :
    Passes (String.utf8EncodeChar ch).length c c' := by
  obtain ⟨b, c₁, hb, h⟩ := run_bind_eq_ok h
  simp only at h
  split at h
  · rename_i hletter
    have hpasses := (passes_nextInString hb (ne_newline_of_ofUInt8 hletter (by decide))).trans
      (passes_unicodeEscape h)
    refine hpasses.mono ?_
    rw [String.length_utf8EncodeChar]
    exact Nat.le_trans (Char.utf8Size_le_four ch) (by omega)
  · cases hshort : shortEscape? (Char.ofUInt8 b) with
    | none =>
      rw [hshort] at h
      cases h
    | some ch' =>
      rw [hshort] at h
      obtain ⟨rfl, rfl⟩ := run_pure_eq_ok h
      obtain ⟨hlength, hletter⟩ := length_of_shortEscape? hshort
      rw [hlength]
      exact passes_nextInString hb (ne_newline_of_ofUInt8 rfl hletter)

theorem passes_stringStep {denoted : List UInt8} {step : Step (List UInt8) (List UInt8)}
    (h : (stringStep denoted).run c = .ok step c') :
    ∃ n, step.length ≤ denoted.length + n ∧ Passes n c c' := by
  obtain ⟨run, c₁, hrun, h⟩ := run_bind_eq_ok h
  obtain ⟨b, c₂, hb, h⟩ := run_bind_eq_ok h
  have hplain := passes_span_isPlain hrun
  generalize hbyte : Char.ofUInt8 b = letter at h
  split at h
  · obtain ⟨rfl, rfl⟩ := run_pure_eq_ok h
    refine ⟨run.length + 1, ?_, hplain.trans (passes_nextInString hb ?_)⟩
    · simp only [Step.length, List.length_append]
      omega
    · exact ne_newline_of_ofUInt8 hbyte (by decide)
  · obtain ⟨ch, c₃, hescape, h⟩ := run_bind_eq_ok h
    obtain ⟨rfl, rfl⟩ := run_pure_eq_ok h
    have hslash := passes_nextInString hb (ne_newline_of_ofUInt8 hbyte (by decide))
    refine ⟨_, ?_, hplain.trans (hslash.trans (passes_escape hescape))⟩
    simp only [Step.length, List.length_append]
    omega
  · cases h

theorem passes_repeating_stringStep {denoted body : List UInt8}
    (h : (repeating stringStep denoted).run c = .ok body c') :
    ∃ n, body.length + 1 ≤ denoted.length + n ∧ Passes n c c' := by
  induction hleft : Source.left c using Nat.strongRecOn generalizing c denoted with
  | ind left ih =>
    rcases run_repeating_eq_ok h with hdone | ⟨denoted₁, c₁, hagain, hlt, hrep⟩
    · exact passes_stringStep hdone
    · obtain ⟨m, hm, hpasses⟩ := passes_stringStep hagain
      obtain ⟨n, hn, hpasses₁⟩ := ih (Source.left c₁) (hleft ▸ hlt) hrep rfl
      refine ⟨m + n, ?_, hpasses.trans hpasses₁⟩
      simp only [Step.length] at hm
      omega

/-- A string is spelled on one line, with more bytes than it denotes. -/
theorem passes_stringBody {body : List UInt8} (h : stringBody.run c = .ok body c') :
    Passes (body.length + 1) c c' := by
  obtain ⟨n, hn, hpasses⟩ := passes_repeating_stringStep h
  exact hpasses.mono (by simpa using hn)

/-- A string ends with a byte that was taken, so that no byte has been looked at. -/
theorem ahead_of_repeating_stringStep {denoted body : List UInt8} {t t' : Stream}
    (h : (repeating stringStep denoted).run t = .ok body t') : t'.ahead = none := by
  induction hleft : Source.left t using Nat.strongRecOn generalizing t denoted with
  | ind left ih =>
    rcases run_repeating_eq_ok h with hdone | ⟨denoted₁, t₁, -, hlt, hrep⟩
    · obtain ⟨run, t₁, -, hdone⟩ := run_bind_eq_ok hdone
      obtain ⟨b, t₂, hb, hdone⟩ := run_bind_eq_ok hdone
      split at hdone
      · obtain ⟨-, rfl⟩ := run_pure_eq_ok hdone
        exact ahead_of_nextInString hb
      · obtain ⟨ch, t₃, -, hdone⟩ := run_bind_eq_ok hdone
        cases (run_pure_eq_ok hdone).1
      · cases hdone
    · exact ih (Source.left t₁) (hleft ▸ hlt) hrep rfl

end

/-! ### Refusals with a place -/

/-- Every refusal of the reader has a place. -/
def Placed (r : Reader α) : Prop :=
  ∀ ⦃κ : Type⦄ [Source κ] [Lawful κ] (c : κ) cause place c',
    r.run c = .error (.refused cause place) c' → place.isSome

theorem placed_pure (a : α) : Placed (pure a) := fun _ _ _ _ _ _ _ h => nomatch h

theorem Placed.bind {r : Reader α} {f : α → Reader β} (hr : Placed r) (hf : ∀ a, Placed (f a)) :
    Placed (r >>= f) := by
  intro κ _ _ c cause place c' h
  cases hrun : r.run c with
  | ok a c₁ =>
    rw [run_bind_of_ok f hrun] at h
    exact hf a c₁ cause place c' h
  | error fault c₁ =>
    rw [run_bind_of_error f hrun] at h
    cases h
    exact hr c cause place c' hrun

theorem placed_refuseNext (cause : Cause) : Placed (refuseNext cause : Reader α) := by
  rintro κ _ _ c _ _ _ ⟨⟩
  rfl

theorem placed_peekByte : Placed peekByte := by
  intro κ _ _ c cause place c' h
  change Source.peek c = _ at h
  cases hrest : Lawful.rest c with
  | nil =>
    rw [Lawful.peek_nil hrest] at h
    exact absurd h Ending.outcome_ne_refused
  | cons b bs =>
    obtain ⟨c₁, hpeek, -, -⟩ := Lawful.peek_cons hrest
    rw [hpeek] at h
    cases h

theorem placed_next : Placed next := by
  intro κ _ _ c cause place c' h
  change Source.next c = _ at h
  cases hrest : Lawful.rest c with
  | nil =>
    rw [Lawful.next_nil hrest] at h
    exact absurd h Ending.outcome_ne_refused
  | cons b bs =>
    obtain ⟨c₁, hnext, -, -⟩ := Lawful.next_cons hrest
    rw [hnext] at h
    cases h

theorem Placed.repeating {step : σ → Reader (Step σ α)} (hstep : ∀ s, Placed (step s)) (state : σ) :
    Placed (repeating step state) := by
  intro κ _ _ c cause place c' h
  induction hleft : Source.left c using Nat.strongRecOn generalizing c state with
  | ind left ih =>
    cases hrun : (step state).run c with
    | ok result c₁ =>
      cases result with
      | done a =>
        rw [run_repeating_of_done hrun] at h
        cases h
      | again state' =>
        rw [run_repeating_of_again hrun] at h
        split at h
        · rename_i hlt
          exact ih (Source.left c₁) (hleft ▸ hlt) state' c₁ h rfl
        · cases h
          rfl
    | error fault c₁ =>
      rw [run_repeating_of_error hrun] at h
      cases h
      exact hstep state c cause place c' hrun

theorem placed_placing (r : Reader α) : Placed (placing r) := by
  intro κ _ _ c cause place c' h
  cases hrun : r.run c with
  | ok a c₁ =>
    rw [run_placing_of_ok hrun] at h
    cases h
  | error fault c₁ =>
    rw [run_placing_of_error hrun] at h
    cases fault with
    | unreadable reason => cases h
    | refused cause place => cases place <;> cases h <;> rfl

theorem placed_span (p : UInt8 → Bool) : Placed (span p) := by
  refine .repeating (fun taken => placed_peekByte.bind fun b => ?_) []
  split
  · split
    · exact (placed_next.bind fun _ => placed_pure _).bind fun _ => placed_pure _
    · exact placed_pure _
  · exact placed_pure _

/-- The refusals of a document have a place if those of its value have one. -/
theorem placed_document {body : Nat → Reader α} (hbody : ∀ depth, Placed (body depth)) :
    Placed (document body) := by
  have hpeekToken : Placed peekToken :=
    (placed_span _).bind fun _ => placed_peekByte.bind fun _ => placed_pure _
  have hend : Placed endDocument := by
    refine hpeekToken.bind fun token => ?_
    split
    · exact placed_pure ()
    · exact placed_refuseNext _
  exact (hbody _).bind fun a => hend.bind fun _ => placed_pure a

end Reader

/-! ### Places in the input -/

/-- The stream stands somewhere in the input, with the given ending. -/
structure Stream.Standing (t : Stream) (input : List UInt8) (ending : Ending) : Prop where
  ending_eq : t.ending = ending
  standsAt : ∃ index, t.StandsAt input index

/-- The fault is a failure of this delivery, or a refusal of this input. -/
inductive Fault.Within (input : List UInt8) (ending : Ending) : Fault → Prop where
  | unreadable {reason : String} : ending = .broken reason →
      Within input ending (.unreadable reason)
  | shape (cause : Cause) : Within input ending (.refused cause none)
  | refused (cause : Cause) {offset : Nat} : offset ≤ input.length →
      Within input ending (.refused cause (some (.ofOffset input offset)))

/-- A stream beside itself: it stays in its input, and so do its faults. -/
def Stream.within (input : List UInt8) (ending : Ending) : Pairing Stream Stream where
  Abreast _ t t' := t = t' ∧ t.Standing input ending
  Alike fault t fault' t' :=
    fault = fault' ∧ t = t' ∧ t.Standing input ending ∧ fault.Within input ending
  Excused _ := False

namespace Stream

variable {input : List UInt8} {ending : Ending} {b : Bool}

theorem standing_start (input : List UInt8) (ending : Ending) :
    (start input ending).Standing input ending :=
  ⟨rfl, 0, standsAt_start input ending⟩

theorem StandsAt.index_eq {t : Stream} {index : Nat} (h : t.StandsAt input index) :
    index = input.length - Source.left t := by
  have hle := h.index_le
  rw [left_eq, h.rest, List.length_drop]
  omega

theorem Standing.suffix {t : Stream} (h : t.Standing input ending) : t.rest <:+ input := by
  obtain ⟨index, hstands⟩ := h.standsAt
  rw [hstands.rest]
  exact List.drop_suffix _ _

/-- The bytes that were fetched are bytes of the input. -/
theorem StandsAt.fetched_le {t : Stream} {index : Nat} (h : t.StandsAt input index) :
    index + t.ahead.toList.length ≤ input.length := by
  have hrest := congrArg List.length h.rest
  rw [Stream.rest, List.length_append, List.length_drop] at hrest
  have hle := h.index_le
  omega

theorem Follows.standing {t t' : Stream} {taken : Nat} (h : t.Follows t' taken)
    (ht : t.Standing input ending) : t'.Standing input ending := by
  obtain ⟨index, hstands⟩ := ht.standsAt
  exact ⟨h.ending.trans ht.ending_eq, _, h.standsAt hstands⟩

theorem meets_outcome {t : Stream} (h : t.Standing input ending) :
    (within input ending).Meets b (t.ending.outcome t) (t.ending.outcome t) := by
  cases hending : t.ending with
  | closed => exact .ok none ⟨rfl, h⟩
  | broken reason =>
    exact .alike ⟨rfl, rfl, h, .unreadable (h.ending_eq.symm.trans hending)⟩

theorem Standing.refused {t : Stream} (h : t.Standing input ending) (cause : Cause) :
    (within input ending).Alike (.refused cause (some t.place)) t
      (.refused cause (some t.place)) t := by
  obtain ⟨index, hstands⟩ := h.standsAt
  exact ⟨rfl, rfl, h, hstands.place ▸ .refused cause hstands.fetched_le⟩

theorem steady_within : (within input ending).Steady where
  forget := id
  left_lt := by
    rintro t t₁ _ _ ⟨rfl, -⟩ ⟨rfl, -⟩
    exact Iff.rfl
  peekByte := by
    rintro t _ ⟨rfl, ht⟩
    show (within input ending).Meets true t.peek t.peek
    cases hrest : t.rest with
    | nil =>
      rw [peek_nil hrest]
      exact meets_outcome ht
    | cons b bs =>
      obtain ⟨t', hpeek, -, -, hfollows⟩ := peek_cons hrest
      rw [hpeek]
      exact .ok _ ⟨rfl, hfollows.standing ht⟩
  next := by
    rintro t _ ⟨rfl, ht⟩
    show (within input ending).Meets false t.next t.next
    cases hrest : t.rest with
    | nil =>
      rw [next_nil hrest]
      exact meets_outcome ht
    | cons b bs =>
      obtain ⟨t', hnext, -, -, hfollows⟩ := next_cons hrest
      rw [hnext]
      exact .ok _ ⟨rfl, hfollows.standing ht⟩
  refuse cause := by
    rintro ⟨rfl, ht⟩
    exact ht.refused cause
  refuseNext cause := by
    rintro ⟨rfl, ht⟩
    exact ht.refused cause
  refuseShape cause := by
    rintro ⟨rfl, ht⟩
    exact ⟨rfl, rfl, ht, .shape cause⟩
  placed := by
    rintro fault _ t _ ⟨rfl, rfl, ht, hfault⟩
    cases hfault with
    | unreadable h => exact ⟨rfl, rfl, ht, .unreadable h⟩
    | shape cause => exact ht.refused cause
    | refused cause h => exact ⟨rfl, rfl, ht, .refused cause h⟩
  excused_placed _ h := h
  later := by
    rintro fault _ t _ close ⟨rfl, rfl, ht, hfault⟩ hclose
    have hstopped := (hclose ⟨rfl, ht⟩).stopped (fun h => ⟨h.2.1, h.2.2.1⟩) fun _ => id
    exact ⟨rfl, rfl, hstopped.2, hfault⟩

/-- Whatever is found behind a comma, the comma is refused in the input. -/
theorem keeps_refuseComma : (within input ending).Keeps false false .refuseComma := by
  rintro t _ ⟨rfl, ht⟩
  have hpeek : (within input ending).Meets true (Reader.peekToken.run t) (Reader.peekToken.run t) :=
    steady_within.keeps_peekToken t t ⟨rfl, ht⟩
  unfold Reader.refuseComma
  cases hrun : Reader.peekToken.run t with
  | ok token t' =>
    rw [hrun] at hpeek
    cases hpeek with
    | ok _ h =>
      rw [Reader.run_bind_of_ok _ (Reader.run_attempt_of_ok hrun)]
      split <;> exact .alike (h.2.refused _)
  | error fault t' =>
    rw [hrun] at hpeek
    rw [Reader.run_bind_of_ok _ (Reader.run_attempt_of_error hrun)]
    cases hpeek with
    | alike h => exact .alike (h.2.2.1.refused _)
    | excused h => exact h.elim

/-- Behind a string the place is counted back from is that of the closing quote. -/
theorem back_of_stringBody {t t' : Stream} {body : List UInt8} {n : Nat}
    (ht : t.Standing input ending) (ht' : t'.Standing input ending)
    (hbody : Reader.stringBody.run t = .ok body t') (hn : n ≤ body.length) :
    t'.place = .ofOffset input (input.length - Source.left t') ∧ n ≤ t'.place.column ∧
      t'.place.back n = .ofOffset input (input.length - (Source.left t' + n)) := by
  obtain ⟨index, hstands⟩ := ht'.standsAt
  have hplace : t'.place = .ofOffset input (input.length - Source.left t') := by
    rw [hstands.place, Reader.ahead_of_repeating_stringStep hbody, ← hstands.index_eq]
    rfl
  have hpasses : Passes n t t' := (Reader.passes_stringBody hbody).mono (by omega)
  obtain ⟨-, hcolumn, hback⟩ := hpasses.back_ofOffset ht.suffix
  rw [← hplace] at hcolumn hback
  exact ⟨hplace, hcolumn, hback⟩

theorem lawful_within : (within input ending).Lawful where
  toSteady := steady_within
  endList := steady_within.keeps_endList keeps_refuseComma
  string hbody := by
    rintro t _ ⟨rfl, ht⟩
    refine (hbody t t ⟨rfl, ht⟩).bind fun body t₁ t₁' hrun _ h => ?_
    obtain ⟨rfl, ht₁⟩ := h
    split
    · exact .ok _ ⟨rfl, ht₁⟩
    · obtain ⟨-, -, hback⟩ := back_of_stringBody ht ht₁ hrun (Nat.sub_le _ _)
      exact .alike ⟨rfl, rfl, ht₁, hback ▸ .refused _ (Nat.sub_le _ _)⟩

variable {t t' : Stream} {α : Type} {r : Reader α}

/-- A program moves on in its input. -/
theorem standing_of_ok (hr : Reader.Program false b r) (ht : t.Standing input ending) {a : α}
    (h : r.run t = .ok a t') : t'.Standing input ending := by
  have hmeets := hr.meets lawful_within t t ⟨rfl, ht⟩
  rw [h] at hmeets
  cases hmeets with
  | ok _ h => exact h.2

/-- **A program fails only as its input does, and refuses only at places in its input.** -/
theorem within_of_error (hr : Reader.Program false b r) (ht : t.Standing input ending)
    {fault : Fault} (h : r.run t = .error fault t') : fault.Within input ending := by
  have hmeets := hr.meets lawful_within t t ⟨rfl, ht⟩
  rw [h] at hmeets
  cases hmeets with
  | alike h => exact h.2.2.2
  | excused h => exact h.elim

end Stream

end ClassDiagram.Json
