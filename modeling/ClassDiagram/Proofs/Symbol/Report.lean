import ClassDiagram.Proofs.Text.Position
import ClassDiagram.Symbol.Load

/-! # Reports and places

The message of a refusal is cut out of a report that ends with the place.  Whatever the message
says, also if it mentions places itself, the cut takes off exactly what was appended, as long as
there is a place (`LoadError.ofReport_ofOffset`).  Without a place the cut falls into a message that
mentions one, and the message is lost from its last mention on (`LoadError.ofReport_loss`).

A report tells one message and one offset in the input (`LoadError.refusedAt_injective`). -/

namespace ClassDiagram

namespace LoadError

/-! ### The last mention of a place -/

theorem beforeLast?_append {mark rest kept : List Char} (h : beforeLast? mark rest = some kept)
    (front : List Char) : beforeLast? mark (front ++ rest) = some (front ++ kept) := by
  induction front with
  | nil => exact h
  | cons c front ih => simp only [List.cons_append, beforeLast?, ih]

theorem placeMark_toList : placeMark.toList = ' ' :: 'a' :: "t line ".toList := rfl

/-- No mention of a place begins inside a word. -/
theorem beforeLast?_word {word rest : List Char} (hword : ∀ c ∈ word, c ≠ ' ')
    (hrest : beforeLast? placeMark.toList rest = none) :
    beforeLast? placeMark.toList (word ++ rest) = none := by
  induction word with
  | nil => exact hrest
  | cons c word ih =>
    obtain ⟨hc, hword⟩ := List.forall_mem_cons.mp hword
    have hmark : placeMark.toList.isPrefixOf (c :: (word ++ rest)) = false := by
      rw [placeMark_toList, List.isPrefixOf, beq_false_of_ne hc.symm, Bool.false_and]
    simp only [List.cons_append, beforeLast?, ih hword, hmark, Bool.false_eq_true, if_false]

/-- No mention of a place begins in front of a word, unless that has an `a` in front. -/
theorem beforeLast?_blank {rest : List Char} (hhead : rest.head? ≠ some 'a')
    (hrest : beforeLast? placeMark.toList rest = none) :
    beforeLast? placeMark.toList (' ' :: rest) = none := by
  have hmark : placeMark.toList.isPrefixOf (' ' :: rest) = false := by
    cases rest with
    | nil => rfl
    | cons c rest =>
      have hc : ('a' == c) = false := beq_false_of_ne fun h => hhead (by rw [h, List.head?_cons])
      rw [placeMark_toList, List.isPrefixOf, List.isPrefixOf, hc, Bool.false_and, Bool.and_false]
  simp only [beforeLast?, hrest, hmark, Bool.false_eq_true, if_false]

theorem isDigit_of_mem_digitsText {n : Nat} {c : Char} (h : c ∈ (Decimal.digitsText n).toList) :
    c.isDigit = true := by
  rw [Decimal.digitsText, String.toList_ofList] at h
  exact Nat.isDigit_of_mem_toDigits (by decide) (by decide) h

theorem ne_blank_of_mem_digitsText {n : Nat} :
    ∀ c ∈ (Decimal.digitsText n).toList, c ≠ ' ' := by
  rintro _ h rfl
  exact absurd (isDigit_of_mem_digitsText h) (by decide)

theorem head?_digitsText_append (n : Nat) (rest : List Char) (hrest : rest.head? ≠ some 'a') :
    ((Decimal.digitsText n).toList ++ rest).head? ≠ some 'a' := by
  cases h : (Decimal.digitsText n).toList with
  | nil => exact hrest
  | cons c digits =>
    rw [List.cons_append, List.head?_cons]
    rintro ⟨⟩
    exact absurd (isDigit_of_mem_digitsText (h ▸ List.mem_cons_self)) (by decide)

/-- What a report appends to its message, word by word, without the first blank. -/
def placeWords (place : Text.Position) : List Char :=
  ['a', 't'] ++ ' ' :: (['l', 'i', 'n', 'e'] ++ ' ' :: ((Decimal.digitsText place.line).toList ++
    ' ' :: (['c', 'o', 'l', 'u', 'm', 'n'] ++ ' ' :: (Decimal.digitsText place.column).toList)))

theorem reportText_toList (message : String) {place : Text.Position} (h : place.line ≠ 0) :
    (reportText message place).toList = message.toList ++ ' ' :: placeWords place := by
  simp only [reportText, if_neg h, String.toList_append, List.append_assoc]
  rfl

/-- The words of a place mention no other place. -/
theorem beforeLast?_placeWords (place : Text.Position) :
    beforeLast? placeMark.toList (placeWords place) = none := by
  obtain ⟨line, column⟩ := place
  have hcolumn : beforeLast? placeMark.toList (Decimal.digitsText column).toList = none := by
    rw [← List.append_nil (Decimal.digitsText column).toList]
    exact beforeLast?_word ne_blank_of_mem_digitsText rfl
  have hhead : (Decimal.digitsText column).toList.head? ≠ some 'a' := by
    rw [← List.append_nil (Decimal.digitsText column).toList]
    exact head?_digitsText_append column [] (by decide)
  refine beforeLast?_word (by simp) (beforeLast?_blank (by simp) ?_)
  refine beforeLast?_word (by simp) (beforeLast?_blank ?_ ?_)
  · exact head?_digitsText_append line _ (by simp)
  refine beforeLast?_word ne_blank_of_mem_digitsText (beforeLast?_blank (by simp) ?_)
  exact beforeLast?_word (by simp) (beforeLast?_blank hhead hcolumn)

/-- A report with a place gives its message back, whatever that says. -/
theorem reportMessage_reportText (message : String) {place : Text.Position}
    (h : place.line ≠ 0) : reportMessage (reportText message place) = message := by
  have hcut : beforeLast? placeMark.toList (reportText message place).toList =
      some (message.toList ++ []) := by
    rw [reportText_toList message h]
    refine beforeLast?_append ?_ message.toList
    rw [beforeLast?, beforeLast?_placeWords]
    rfl
  simp only [reportMessage, hcut, List.append_nil, String.ofList_toList]

/-! ### What a report without a place loses -/

/-- The text mentions a place. -/
def Mentions (text : String) : Prop := ∃ front tail, text = front ++ placeMark ++ tail

/-- `kept` is what stands in front of the last mention of a place. -/
structure LastMention (text kept : String) : Prop where
  mentioned : ∃ tail, text = kept ++ placeMark ++ tail
  last : ∀ front tail, text = front ++ placeMark ++ tail → front.length ≤ kept.length

theorem eq_append_placeMark_iff {text front tail : String} :
    text = front ++ placeMark ++ tail ↔
      text.toList = front.toList ++ placeMark.toList ++ tail.toList := by
  rw [← String.toList_inj, String.toList_append, String.toList_append]

theorem mentions_iff {text : String} : Mentions text ↔ placeMark.toList <:+: text.toList := by
  constructor
  · rintro ⟨front, tail, rfl⟩
    rw [String.toList_append, String.toList_append]
    exact List.infix_append _ _ _
  · rintro ⟨front, tail, htext⟩
    refine ⟨String.ofList front, String.ofList tail, eq_append_placeMark_iff.mpr ?_⟩
    rw [String.toList_ofList, String.toList_ofList, htext]

theorem beforeLast?_eq_none_iff {mark text : List Char} :
    beforeLast? mark text = none ↔ ¬ mark <:+: text := by
  induction text with
  | nil => simp [beforeLast?]
  | cons c text ih =>
    rw [List.infix_cons_iff, not_or, ← ih, beforeLast?]
    cases beforeLast? mark text with
    | some kept => simp
    | none => simp

/-- What is kept ends where the mark begins for the last time. -/
theorem prefix_of_beforeLast? {mark text kept : List Char} (h : beforeLast? mark text = some kept) :
    kept ++ mark <+: text ∧ ∀ front, front ++ mark <+: text → front.length ≤ kept.length := by
  induction text generalizing kept with
  | nil =>
    rw [beforeLast?] at h
    split at h
    case isFalse => cases h
    case isTrue hempty =>
      cases h
      rw [List.isEmpty_iff.mp hempty]
      refine ⟨List.prefix_rfl, fun front hfront => ?_⟩
      rw [List.append_nil] at hfront
      exact hfront.length_le
  | cons c text ih =>
    rw [beforeLast?] at h
    cases hrest : beforeLast? mark text with
    | some kept' =>
      rw [hrest] at h
      cases h
      obtain ⟨hkept, hlast⟩ := ih hrest
      refine ⟨(List.prefix_cons_inj c).mpr hkept, fun front hfront => ?_⟩
      cases front with
      | nil => exact Nat.zero_le _
      | cons d front => exact Nat.succ_le_succ (hlast front (List.cons_prefix_cons.mp hfront).2)
    | none =>
      simp only [hrest] at h
      split at h
      case isFalse => cases h
      case isTrue hmark =>
        cases h
        refine ⟨List.isPrefixOf_iff_prefix.mp hmark, fun front hfront => ?_⟩
        cases front with
        | nil => exact Nat.le_refl _
        | cons d front =>
          -- a later occurrence would have been found in the rest
          obtain ⟨tail, htail⟩ := (List.cons_prefix_cons.mp hfront).2
          exact absurd ⟨front, tail, htail⟩ (beforeLast?_eq_none_iff.mp hrest)

theorem LastMention.mentions {text kept : String} (h : LastMention text kept) : Mentions text :=
  ⟨kept, h.mentioned⟩

theorem LastMention.ne {text kept : String} (h : LastMention text kept) : kept ≠ text := by
  obtain ⟨tail, htext⟩ := h.mentioned
  intro heq
  have hlength := congrArg String.length (heq.trans htext)
  rw [String.length_append, String.length_append, show placeMark.length = 9 from rfl] at hlength
  omega

/-- The message of a text without a mention is the text; otherwise it ends at the last mention. -/
theorem reportMessage_cases (text : String) :
    (¬ Mentions text ∧ reportMessage text = text) ∨ LastMention text (reportMessage text) := by
  rw [mentions_iff, ← beforeLast?_eq_none_iff, reportMessage]
  cases hcut : beforeLast? placeMark.toList text.toList with
  | none => exact .inl ⟨rfl, rfl⟩
  | some kept =>
    obtain ⟨⟨tail, htail⟩, hlast⟩ := prefix_of_beforeLast? hcut
    refine .inr ⟨⟨String.ofList tail, eq_append_placeMark_iff.mpr ?_⟩, fun front tail' htext => ?_⟩
    · rw [String.toList_ofList, String.toList_ofList, htail]
    · rw [String.length_ofList, ← String.length_toList]
      exact hlast _ ⟨_, (eq_append_placeMark_iff.mp htext).symm⟩

theorem mentions_reportText (message : String) {place : Text.Position} (h : place.line ≠ 0) :
    Mentions (reportText message place) := by
  refine ⟨message,
    Decimal.digitsText place.line ++ " column " ++ Decimal.digitsText place.column, ?_⟩
  rw [reportText, if_neg h]
  simp only [String.append_assoc]

/-- **The message of a refusal is lost only without a place**, and then only from its last mention
of a place on.  In a report with a place the last mention is the one that was appended. -/
theorem ofReport_loss (message : String) (line column : Nat) :
    ∃ m, ofReport message ⟨line, column⟩ = .parse m line column ∧
      (m = message ↔ 1 ≤ line ∨ ¬ Mentions message) ∧
      (line = 0 → Mentions message → LastMention message m) ∧
      (1 ≤ line → LastMention (reportText message ⟨line, column⟩) message) := by
  refine ⟨_, rfl, ?_⟩
  by_cases hline : line = 0
  · subst hline
    have htext : reportText message ⟨0, column⟩ = message := if_pos rfl
    rw [htext]
    rcases reportMessage_cases message with ⟨hfree, hwhole⟩ | hlast
    · refine ⟨iff_of_true hwhole (.inr hfree), fun _ hmentions => absurd hmentions hfree, ?_⟩
      intro hpos
      omega
    · refine ⟨iff_of_false hlast.ne ?_, fun _ _ => hlast, ?_⟩
      · rintro (hpos | hfree)
        · omega
        · exact hfree hlast.mentions
      · intro hpos
        omega
  · have hmessage : reportMessage (reportText message ⟨line, column⟩) = message :=
      reportMessage_reportText message hline
    have hlast := (reportMessage_cases (reportText message ⟨line, column⟩)).resolve_left
      fun h => h.1 (mentions_reportText message hline)
    rw [hmessage] at hlast ⊢
    exact ⟨iff_of_true rfl (.inl (by omega)), fun hzero => absurd hzero hline, fun _ => hlast⟩

/-- Names that look like the end of a report, once without a place and once with one. -/
theorem ofReport_loss_lookalikes :
    LastMention "unknown variant `dry at line 4 at line dock`" "unknown variant `dry at line 4" ∧
      LastMention (reportText "missing field ` at line 1 column 2" ⟨3, 5⟩)
        "missing field ` at line 1 column 2" := by
  obtain ⟨m, hreport, -, hlost, -⟩ :=
    ofReport_loss "unknown variant `dry at line 4 at line dock`" 0 0
  obtain ⟨_, -, -, -, hplaced⟩ := ofReport_loss "missing field ` at line 1 column 2" 3 5
  have hcut : ofReport "unknown variant `dry at line 4 at line dock`" ⟨0, 0⟩ =
      .parse "unknown variant `dry at line 4" 0 0 := by decide
  have hm : "unknown variant `dry at line 4" = m :=
    (LoadError.parse.inj (hcut.symm.trans hreport)).1
  refine ⟨hm ▸ hlost rfl ?_, hplaced (by decide)⟩
  exact ⟨"unknown variant `dry", "4 at line dock`", by decide⟩

/-! ### Reports and offsets -/

/-- The refusal of `input` with a message, `offset` bytes after its beginning. -/
def refusedAt (input : List UInt8) (message : String) (offset : Nat) : LoadError :=
  .parse message (Text.Position.ofOffset input offset).line
    (Text.Position.ofOffset input offset).column

theorem ofReport_ofOffset (message : String) (input : List UInt8) (offset : Nat) :
    ofReport message (Text.Position.ofOffset input offset) = refusedAt input message offset := by
  have hline := Text.Position.one_le_line (input.take offset)
  rw [ofReport, reportMessage_reportText message (by unfold Text.Position.ofOffset; omega)]
  rfl

/-- A refusal tells its message and its offset, so "the offset of a refusal" is well defined. -/
theorem refusedAt_injective {input : List UInt8} {m m' : String} {p q : Nat}
    (hp : p ≤ input.length) (hq : q ≤ input.length)
    (h : refusedAt input m p = refusedAt input m' q) : m = m' ∧ p = q := by
  obtain ⟨hm, hline, hcolumn⟩ := LoadError.parse.inj h
  exact ⟨hm, Text.Position.ofOffset_injective hp hq (congrArg₂ Text.Position.mk hline hcolumn)⟩

end LoadError

end ClassDiagram
