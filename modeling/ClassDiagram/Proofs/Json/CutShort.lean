import ClassDiagram.Proofs.Json.Places

/-! # Inputs that are cut short

A delivery that fails has handed out a beginning of the input.  What a reader decides on that
beginning it also decides on the whole input: it yields the same value, or refuses for the same
cause (`Stream.lawful_cutShort`).  When it reports the failing delivery, nothing follows.

There is one exception.  The end of a list, having passed a comma, takes a failing delivery for the
end of the input and calls the comma a trailing character, where the closing bracket would have made
it a trailing comma (`CutAtComma`). -/

namespace ClassDiagram.Json

/-- The delivered bytes end with a comma, and the missing ones begin with a closing bracket, up to
blanks. -/
def CutAtComma (delivered missing : List UInt8) : Prop :=
  ∃ before gap gap' after, Blank gap ∧ Blank gap' ∧
    delivered = before ++ 0x2C :: gap ∧ missing = gap' ++ 0x5D :: after

/-- What an input that is cut short is refused for, and what the whole input is. -/
inductive Cause.Stands (delivered missing : List UInt8) : Cause → Cause → Prop where
  | same (cause : Cause) : Stands delivered missing cause cause
  | comma : CutAtComma delivered missing →
      Stands delivered missing .trailingCharacters .trailingComma

/-- The refusals stand for each other, wherever they are placed. -/
inductive Fault.Stands (delivered missing : List UInt8) : Fault → Fault → Prop where
  | refused {cause cause' : Cause} (place place' : Option Text.Position) :
      cause.Stands delivered missing cause' →
      Stands delivered missing (.refused cause place) (.refused cause' place')

/-- `t` and `t'` stand at the same place of the delivered bytes; to `t'` the missing ones are
delivered as well. -/
structure Stream.Completed (delivered missing : List UInt8) (reason : String) (t t' : Stream) :
    Prop where
  suffix : t.rest <:+ delivered
  rest : t'.rest = t.rest ++ missing
  broken : t.ending = .broken reason
  closed : t'.ending = .closed

/-- A stream that fails beside the stream of the whole input. -/
def Stream.cutShort (delivered missing : List UInt8) (reason : String) : Pairing Stream Stream where
  Abreast _ t t' := Completed delivered missing reason t t'
  Alike fault _ fault' _ := fault.Stands delivered missing fault'
  Excused fault := ∃ reason', fault = .unreadable reason'

theorem ofUInt8_injective {b b' : UInt8} (h : Char.ofUInt8 b = Char.ofUInt8 b') : b = b' := by
  have hval : b.toUInt32 = b'.toUInt32 := congrArg Char.val h
  exact UInt8.toUInt32_inj.mp hval

namespace Stream

variable {delivered missing : List UInt8} {reason : String} {t t' : Stream}

theorem completed_start (delivered missing : List UInt8) (reason : String) :
    Completed delivered missing reason (start delivered (.broken reason))
      (start (delivered ++ missing) .closed) :=
  ⟨List.suffix_refl _, rfl, rfl, rfl⟩

namespace Completed

theorem left_eq (h : Completed delivered missing reason t t') :
    Source.left t' = Source.left t + missing.length := by
  rw [Stream.left_eq, Stream.left_eq, h.rest, List.length_append]

/-- Both streams have a next byte, and it is the same. -/
theorem rest_cons (h : Completed delivered missing reason t t') {b : UInt8} {bs : List UInt8}
    (hrest : t.rest = b :: bs) : t'.rest = b :: (bs ++ missing) := by
  rw [h.rest, hrest, List.cons_append]

/-- Streams that have handed out the same byte, or have left it where it is. -/
theorem onward {t₁ t₁' : Stream} {bs : List UInt8} (h : Completed delivered missing reason t t')
    (hrest : t₁.rest = bs) (hrest' : t₁'.rest = bs ++ missing) (hsuffix : bs <:+ t.rest)
    (hending : t₁.ending = t.ending) (hending' : t₁'.ending = t'.ending) :
    Completed delivered missing reason t₁ t₁' where
  suffix := hrest ▸ hsuffix.trans h.suffix
  rest := by rw [hrest', hrest]
  broken := hending.trans h.broken
  closed := hending'.trans h.closed

end Completed

theorem steady_cutShort : (cutShort delivered missing reason).Steady where
  forget := id
  left_lt h h₁ := by rw [h.left_eq, h₁.left_eq, Nat.add_lt_add_iff_right]
  peekByte := by
    intro t t' h
    show (cutShort delivered missing reason).Meets true t.peek t'.peek
    cases hrest : t.rest with
    | nil =>
      rw [peek_nil hrest, h.broken]
      exact .excused ⟨reason, rfl⟩
    | cons b bs =>
      obtain ⟨t₁, hpeek, hrest₁, -, hfollows⟩ := peek_cons hrest
      obtain ⟨t₁', hpeek', hrest₁', -, hfollows'⟩ := peek_cons (h.rest_cons hrest)
      rw [hpeek, hpeek']
      exact .ok _ (h.onward hrest₁ hrest₁' (hrest ▸ List.suffix_refl _) hfollows.ending
        hfollows'.ending)
  next := by
    intro t t' h
    show (cutShort delivered missing reason).Meets false t.next t'.next
    cases hrest : t.rest with
    | nil =>
      rw [next_nil hrest, h.broken]
      exact .excused ⟨reason, rfl⟩
    | cons b bs =>
      obtain ⟨t₁, hnext, hrest₁, -, hfollows⟩ := next_cons hrest
      obtain ⟨t₁', hnext', hrest₁', -, hfollows'⟩ := next_cons (h.rest_cons hrest)
      rw [hnext, hnext']
      exact .ok _ (h.onward hrest₁ hrest₁' (hrest ▸ List.suffix_cons b bs) hfollows.ending
        hfollows'.ending)
  refuse cause _ := .refused _ _ (.same cause)
  refuseNext cause _ := .refused _ _ (.same cause)
  refuseShape cause _ := .refused _ _ (.same cause)
  placed h := by
    obtain ⟨place, place', h⟩ := h
    cases place <;> cases place' <;> exact .refused _ _ h
  excused_placed _ h := by
    obtain ⟨reason, rfl⟩ := h
    exact ⟨reason, rfl⟩
  later h _ := h

/-! ### The end of a list -/

/-- If the delivered bytes hold no further token, the missing ones may begin with a bracket. -/
theorem bracket_of_peekToken {fault : Fault} {t₁ t₁' : Stream}
    (h : Completed delivered missing reason t t')
    (hfault : Reader.peekToken.run t = .error fault t₁)
    (hbracket : Reader.peekToken.run t' = .ok (some ']') t₁') :
    Blank t.rest ∧ ∃ gap after, Blank gap ∧ missing = gap ++ 0x5D :: after := by
  rcases Reader.exists_run Reader.isBlank t.rest with hall | ⟨gap, b, rest, hgap, hb, hrest⟩
  · refine ⟨Reader.blank_of_isBlank hall, ?_⟩
    rcases Reader.exists_run Reader.isBlank missing with hall' | ⟨gap, b, after, hgap, hb, rfl⟩
    · have hblank : Blank t'.rest := by
        rw [h.rest]
        exact Reader.blank_of_isBlank (List.forall_mem_append.mpr ⟨hall, hall'⟩)
      obtain ⟨t₂, hnone, -, -⟩ := Reader.runs_peekToken_end hblank t' rfl h.closed
      cases hbracket.symm.trans hnone
    · have hblank : Blank (t.rest ++ gap) :=
        Reader.blank_of_isBlank (List.forall_mem_append.mpr ⟨hall, hgap⟩)
      obtain ⟨t₂, hsome, -, -⟩ := Reader.runs_peekToken hblank hb after t'
        (by rw [List.append_assoc]; exact h.rest) h.closed
      have htoken := (EStateM.Result.ok.inj (hsome.symm.trans hbracket)).1
      have hb' : b = 0x5D := ofUInt8_injective (Option.some.inj htoken)
      exact ⟨gap, after, Reader.blank_of_isBlank hgap, by rw [hb']⟩
  · obtain ⟨t₂, hsome, -, -⟩ :=
      Reader.runs_peekToken (Reader.blank_of_isBlank hgap) hb rest t hrest h.broken
    cases hfault.symm.trans hsome

/-- Behind a comma the end of a list refuses in any case; what comes next decides for what. -/
theorem meets_refuseComma (h : Completed delivered missing reason t t')
    (hcomma : ∃ before, delivered = before ++ 0x2C :: t.rest) :
    (cutShort delivered missing reason).Meets false (Reader.refuseComma.run t)
      (Reader.refuseComma.run t') := by
  have hpeek := steady_cutShort.keeps_peekToken t t' h
  obtain ⟨token', t₁', hrun'⟩ := Reader.exists_peekToken t' h.closed
  generalize hrun : Reader.peekToken.run t = out at hpeek
  rw [hrun'] at hpeek
  unfold Reader.refuseComma
  rw [Reader.run_bind_of_ok _ (Reader.run_attempt_of_ok hrun')]
  cases hpeek with
  | ok _ h₁ =>
    rw [Reader.run_bind_of_ok _ (Reader.run_attempt_of_ok hrun)]
    split <;> exact .alike (.refused _ _ (.same _))
  | excused _ =>
    rw [Reader.run_bind_of_ok _ (Reader.run_attempt_of_error hrun)]
    change Pairing.Meets _ false ((Reader.refuseNext .trailingCharacters).run _) _
    split
    · rename_i hbracket
      cases hbracket
      obtain ⟨hgap, gap, after, hgap', hmissing⟩ := bracket_of_peekToken h hrun hrun'
      obtain ⟨before, hbefore⟩ := hcomma
      exact .alike (.refused _ _ (.comma ⟨before, t.rest, gap, after, hgap, hgap', hbefore,
        hmissing⟩))
    · exact .alike (.refused _ _ (.same _))

/-- A token that was looked at is what comes next. -/
theorem rest_of_peekToken {token : Char} (h : Reader.peekToken.run t = .ok (some token) t') :
    ∃ b rest, t'.rest = b :: rest ∧ token = Char.ofUInt8 b := by
  obtain ⟨gap, t₁, -, h⟩ := Reader.run_bind_eq_ok h
  obtain ⟨b?, t₂, hpeek, h⟩ := Reader.run_bind_eq_ok h
  obtain ⟨htoken, rfl⟩ := Reader.run_pure_eq_ok h
  obtain ⟨hhead, hrest, -⟩ := Lawful.peek_eq_ok hpeek
  obtain ⟨b, rfl, rfl⟩ := Option.map_eq_some_iff.mp htoken
  obtain ⟨rest, hrest₁⟩ := List.head?_eq_some_iff.mp hhead
  exact ⟨b, rest, hrest.trans hrest₁, rfl⟩

theorem keeps_endList : (cutShort delivered missing reason).Keeps false false .endList := by
  intro t t' h
  refine (steady_cutShort.keeps_peekToken t t' h).bind fun token t₁ t₁' hrun _ h₁ => ?_
  split
  · exact steady_cutShort.keeps_advance t₁ t₁' h₁
  · obtain ⟨b, rest, hrest, hb⟩ := rest_of_peekToken hrun
    have hcomma : b = 0x2C := ofUInt8_injective hb.symm
    obtain ⟨before, hbefore⟩ := h₁.suffix
    refine (steady_cutShort.keeps_advance t₁ t₁' h₁).bind fun _ t₂ t₂' hadvance _ h₂ => ?_
    have hrest₂ : t₂.rest = rest := Reader.rest_of_advance hrest hadvance
    exact meets_refuseComma h₂ ⟨before, by rw [← hbefore, hrest, hrest₂, hcomma]⟩
  · exact steady_cutShort.keeps_refuseNext _ t₁ t₁' h₁
  · exact steady_cutShort.keeps_refuseNext _ t₁ t₁' h₁

/-! ### All readers -/

/-- **What is decided on a part of the input is decided on the whole.** -/
theorem lawful_cutShort : (cutShort delivered missing reason).Lawful where
  toSteady := steady_cutShort
  endList := keeps_endList
  string hbody := by
    refine hbody.bind fun body => ?_
    split
    · exact .pure _
    · exact fun _ _ _ => .alike (.refused _ _ (.same _))

/-- A failing delivery is never taken for the end of the input. -/
theorem peekToken_ne_none {input : List UInt8} (ht : t.Standing input (.broken reason)) :
    Reader.peekToken.run t ≠ .ok none t' := by
  intro h
  obtain ⟨gap, t₁, hspan, h⟩ := Reader.run_bind_eq_ok h
  obtain ⟨b?, t₂, hpeek, h⟩ := Reader.run_bind_eq_ok h
  obtain ⟨hnone, rfl⟩ := Reader.run_pure_eq_ok h
  obtain rfl := Option.map_eq_none_iff.mp hnone
  have hrest : t₁.rest = [] := List.head?_eq_none_iff.mp (Lawful.peek_eq_ok hpeek).1
  have hbroken := (standing_of_ok (.span _) ht hspan).ending_eq
  have hfails : t₁.peek = .error (.unreadable reason) t₁ := by
    rw [peek_nil hrest, hbroken]
    rfl
  cases hpeek.symm.trans hfails

/-- No document is complete before the input has ended. -/
theorem document_ne_ok {α : Type} {body : Nat → Reader α}
    (hbody : ∀ depth, Reader.Program false false (body depth)) {input : List UInt8} {a : α}
    (ht : t.Standing input (.broken reason)) : (Reader.document body).run t ≠ .ok a t' := by
  intro h
  obtain ⟨_, t₁, hread, h⟩ := Reader.run_bind_eq_ok h
  obtain ⟨_, t₂, hend, -⟩ := Reader.run_bind_eq_ok h
  obtain ⟨token, t₃, hpeek, hend⟩ := Reader.run_bind_eq_ok hend
  cases token with
  | none => exact peekToken_ne_none (standing_of_ok (hbody _) ht hread) hpeek
  | some token => cases hend

end Stream

end ClassDiagram.Json
