import ClassDiagram.Json.Reader.Record

/-! # Readers that look before they refuse

A refusal because of the byte that was looked at (`refuseNext`) makes sense only if there was such a
byte: a slice blames the byte behind its index, a stream the one that it has fetched.  `Program b b'
r` says that the reader `r` keeps to that.  The flags tell whether the next byte is known to have
been looked at, or to be missing: `b` is needed in front of `r`, and `b'` holds behind it.

Every reader of a document is such a program, and each has its lemma here, in the order of the
definitions.  A law that holds of the readers that a source sees and is kept by the combinators then
holds of every reader (`Program.meets`).

The end of a list has a rule of its own.  It alone makes up its own mind about a failing delivery,
so that it obeys the laws although one of its steps does not.  A string has one as well, because it
is refused at a place that is counted back from its end. -/

namespace ClassDiagram.Json.Reader

variable {α β δ σ : Type} {b b' : Bool}

/-- In front of the reader the next byte must have been looked at if the first flag is set; behind
it that holds if the second one is. -/
inductive Program : Bool → Bool → {α : Type} → Reader α → Prop where
  | pure {b : Bool} {α : Type} (a : α) : Program b b (pure a)
  | bind {b b₁ b' : Bool} {α β : Type} {r : Reader α} {f : α → Reader β} :
      Program b b₁ r → (∀ a, Program b₁ b' (f a)) → Program b b' (r >>= f)
  | peekByte {b : Bool} : Program b true peekByte
  | next {b : Bool} : Program b false next
  | refuse {b b' : Bool} {α : Type} (cause : Cause) : Program b b' (refuse cause : Reader α)
  | refuseNext {b' : Bool} {α : Type} (cause : Cause) :
      Program true b' (refuseNext cause : Reader α)
  | refuseShape {b b' : Bool} {α : Type} (cause : Cause) :
      Program b b' (refuseShape cause : Reader α)
  | placing {b b' : Bool} {α : Type} {r : Reader α} : Program b b' r → Program b b' (placing r)
  | closing {b b' : Bool} {α : Type} {r : Reader α} {close : Reader Unit} :
      Program b false r → Program false b' close → Program b b' (closing r close)
  | repeating {b : Bool} {α σ : Type} {step : σ → Reader (Step σ α)} (state : σ) :
      (∀ s, Program false false (step s)) → Program b false (repeating step state)
  | endList {b : Bool} : Program b false endList
  | string {b : Bool} : Program false false stringBody → Program b false stringRest
  | weaken {b b₁ b₁' b' : Bool} {α : Type} {r : Reader α} :
      b₁ ≤ b → b' ≤ b₁' → Program b₁ b₁' r → Program b b' r

namespace Program

/-- A value is yielded, whatever is known of the next byte. -/
theorem done (a : α) : Program b false (Pure.pure a) :=
  .weaken (Bool.le_refl b) (Bool.false_le b) (.pure a)

/-- A reader that needs no look may follow one. -/
theorem ahead {r : Reader α} (hr : Program false b' r) : Program b b' r :=
  .weaken (Bool.false_le b) (Bool.le_refl b') hr

theorem map {r : Reader α} (f : α → β) (hr : Program b b' r) : Program b b' (f <$> r) :=
  hr.bind fun a => .pure (f a)

theorem ite {p : Prop} [Decidable p] {r r' : Reader α} (hr : Program b b' r)
    (hr' : Program b b' r') : Program b b' (if p then r else r') := by
  split <;> assumption

/-- A reader in front of the rest if `p` holds. -/
theorem refusing {p : Prop} [Decidable p] {r : Reader Unit} {rest : Unit → Reader α}
    (hr : Program b b r) (hrest : ∀ u, Program b b' (rest u)) :
    Program b b' (if p then r >>= rest else rest ()) :=
  .ite (hr.bind hrest) (hrest ())

/-- Nothing comes behind a refusal. -/
theorem refused {cause : Cause} {rest : β → Reader α} (hrest : ∀ a, Program false b' (rest a)) :
    Program b b' (Reader.refuse cause >>= rest) :=
  .bind (.refuse cause) hrest

theorem advance : Program b false advance := .bind .next fun _ => .done ()

theorem peek : Program b true peek := .bind .peekByte fun _ => .pure _

theorem span (p : UInt8 → Bool) : Program b false (span p) := by
  refine .repeating [] fun taken => .bind .peekByte fun b => ?_
  split
  · exact .ite (.bind advance fun _ => .done _) (.done _)
  · exact .done _

theorem peekToken : Program b true peekToken := .bind (span isBlank) fun _ => peek

/-! ### Strings -/

theorem nextInString : Program b false nextInString := by
  refine .bind .next fun b => ?_
  split
  · exact .done _
  · exact .refuse _

theorem hexEscape : Program b false hexEscape := by
  refine .bind nextInString fun a => .bind nextInString fun b => .bind nextInString fun c =>
    .bind nextInString fun d => ?_
  split
  · exact .done _
  · exact .refuse _

theorem pairLetter (letter : Char) : Program b false (pairLetter letter) :=
  .bind nextInString fun _ => .ite (.done _) (.refuse _)

theorem unicodeEscape : Program b false unicodeEscape := by
  refine .bind hexEscape fun n => .ite (.refuse _) (.ite ?_ (.done _))
  exact .bind (pairLetter _) fun _ => .bind (pairLetter _) fun _ => .bind hexEscape fun _ =>
    .ite (.done _) (.refuse _)

theorem escape : Program b false escape := by
  refine .bind nextInString fun b => .ite unicodeEscape ?_
  split
  · exact .done _
  · exact .refuse _

theorem stringBody : Program b false stringBody := by
  refine .repeating [] fun done => ?_
  refine .bind (span _) fun run => .bind nextInString fun b => ?_
  split
  · exact .done _
  · exact .bind escape fun _ => .done _
  · exact .refuse _

theorem stringRest : Program b false stringRest := .string stringBody

theorem skipEscape : Program b false skipEscape :=
  .bind nextInString fun _ =>
    .ite (.bind hexEscape fun _ => .done _) (.ite (.done _) (.refuse _))

theorem skipString : Program b false skipString := by
  refine .repeating () fun _ => .bind (span _) fun run => .bind peek fun c => ?_
  split
  · exact .refuse _
  · exact .bind advance fun _ => .done _
  · exact .bind advance fun _ => .bind skipEscape fun _ => .done _
  · exact .refuse _

/-! ### Numbers -/

theorem real (p : Parts) : Program b false p.real := by
  unfold Parts.real
  split
  · exact .done _
  · exact .refuse _

theorem digits : Program b false digits := span _

theorem exponentDigits (n : Nat) : Program b false (exponentDigits n) := by
  refine .repeating n fun n => .bind peek fun c => ?_
  split
  · exact .ite (.bind advance fun _ => .ite (.done _) (.done _)) (.done _)
  · exact .done _

theorem exponentSign : Program b false exponentSign := by
  refine .bind peek fun c => ?_
  split
  · exact .bind advance fun _ => .done _
  · exact .bind advance fun _ => .done _
  · exact .done _

theorem exponentPart (p : Parts) : Program b false (exponentPart p) := by
  refine .bind advance fun _ => .bind exponentSign fun negative => .bind .next fun d => ?_
  split
  · exact .refuse _
  · refine .refusing (.refuse _) fun _ => .bind (exponentDigits _) fun n => ?_
    split
    · exact real _
    · exact .refusing (.refuse _) fun _ => .bind digits fun _ => .done _

theorem fractionPart (p : Parts) : Program b false (fractionPart p) := by
  refine .bind advance fun _ => .bind digits fun ds => ?_
  extract_lets -underBinder rest
  have hrest : ∀ u, Program false false (rest u) := by
    refine fun _ => .bind peek fun c => ?_
    split
    · exact exponentPart _
    · exact exponentPart _
    · exact real _
  refine .ite (.bind peek fun c => ?_) (hrest ())
  split
  · exact .bind (.refuseNext _) hrest
  · exact .bind (.refuseNext _) hrest

theorem numberTail (p : Parts) {whole : Reader Number} (hwhole : Program true false whole) :
    Program b false (numberTail p whole) := by
  refine .bind peek fun c => ?_
  split
  · exact fractionPart p
  · exact exponentPart p
  · exact exponentPart p
  · exact hwhole

theorem unsignedNumber (negative : Bool) : Program b false (unsignedNumber negative) := by
  refine .bind .next fun d => ?_
  split
  · exact .refuse _
  · refine .refusing (.refuse _) fun _ => .ite (.bind peek fun c => ?_) ?_
    · split
      · exact .refusing (.refuseNext _) fun _ => numberTail _ (.done _)
      · exact numberTail _ (.done _)
    · exact .bind digits fun ds => numberTail _ (.ite (.done _) (real _))

theorem skipExponent : Program b false skipExponent := by
  refine .bind advance fun _ => .bind peek fun c => ?_
  extract_lets -underBinder rest
  have hrest : ∀ u, Program false false (rest u) := by
    refine fun _ => .bind .next fun d => ?_
    split
    · exact .refusing (.refuse _) fun _ => .bind digits fun _ => .done _
    · exact .refused fun _ => .bind digits fun _ => .done _
  split
  · exact .bind advance hrest
  · exact .bind advance hrest
  · exact .ahead (hrest ())

theorem skipNumber : Program b false skipNumber := by
  refine .bind .next fun d => ?_
  extract_lets -underBinder rest
  have hrest : ∀ u, Program false false (rest u) := by
    refine fun _ => .bind peek fun c => ?_
    split
    · refine .bind advance fun _ => .bind digits fun ds => .bind peek fun c =>
        .refusing (.refuseNext _) fun _ => ?_
      split
      · exact skipExponent
      · exact skipExponent
      · exact .done _
    · exact skipExponent
    · exact skipExponent
    · exact .done _
  split
  · exact .refused hrest
  · refine .refusing (.refuse _) fun _ => .ite (.bind peek fun c => ?_)
      (.bind digits fun _ => hrest ())
    split
    · exact .refusing (.refuseNext _) fun u => .ahead (hrest u)
    · exact .ahead (hrest ())

/-! ### Values -/

theorem token : Program b true token := by
  refine .bind peekToken fun c => ?_
  split
  · exact .pure _
  · exact .refuseNext _

theorem letters : ∀ {b} cs, Program b false (letters cs)
  | _, [] => .done _
  | _, _ :: cs => by
    refine .bind .next fun b => ?_
    split
    · exact .refuse _
    · exact .ite (letters cs) (.refuse _)

theorem scalar : Program b false scalar := by
  refine .bind token fun c => ?_
  split
  · exact .bind advance fun _ => .bind (letters _) fun _ => .done _
  · exact .bind advance fun _ => .bind (letters _) fun _ => .done _
  · exact .bind advance fun _ => .bind (letters _) fun _ => .done _
  · exact .bind advance fun _ => .bind stringRest fun _ => .done _
  · exact .bind advance fun _ => .bind (unsignedNumber _) fun _ => .done _
  · exact .ite (.bind (unsignedNumber _) fun _ => .done _) (.refuseNext _)

theorem mismatch (expected : String) : Program b false (mismatch expected : Reader α) := by
  refine .bind token fun c => ?_
  split
  · exact .refuse _
  · exact .refuse _
  · exact .bind scalar fun _ => .refuse _

theorem entering (depth : Nat) {body : Nat → Reader α} (hbody : ∀ d, Program false b' (body d)) :
    Program true b' (entering depth body) := by
  cases depth with
  | zero => exact .refuseNext _
  | succ depth => exact .bind advance fun _ => hbody depth

theorem nextItem (first : Bool) : Program b false (nextItem first) := by
  refine .bind peekToken fun c => ?_
  split
  · exact .refuseNext _
  · exact .done _
  · refine .ite (.done _) (.ite (.bind advance fun _ => .bind peekToken fun c => ?_)
      (.refuseNext _))
    split
    · exact .refuseNext _
    · exact .refuseNext _
    · exact .done _

theorem foldItems (first : Bool) {item : σ → Reader σ}
    (hitem : ∀ s, Program false false (item s)) (state : σ) :
    Program b false (foldItems first item state) :=
  .repeating _ fun (first, s) => .bind (nextItem first) fun _ =>
    .ite (.bind (hitem s) fun _ => .done _) (.done _)

theorem items (first : Bool) {item : Reader α} (hitem : Program false false item) :
    Program b false (items first item) :=
  .bind (foldItems first (fun _ => .bind hitem fun _ => .done _) _) fun _ => .done _

theorem key : Program b false key := by
  refine .bind peekToken fun c => ?_
  split
  · exact .bind advance fun _ => stringRest
  · exact .refuseNext _
  · exact .refuseNext _
  · exact .refuseNext _

theorem nextKey? (first : Bool) : Program b false (nextKey? first) := by
  refine .bind peekToken fun c => ?_
  split
  · exact .refuseNext _
  · exact .done _
  · exact .ite (.bind key fun _ => .done _)
      (.ite (.bind advance fun _ => .bind key fun _ => .done _) (.refuseNext _))

theorem colon : Program b false colon := by
  refine .bind peekToken fun c => ?_
  split
  · exact advance
  · exact .refuseNext _
  · exact .refuseNext _

theorem foldEntries {entry : σ → String → Reader σ}
    (hentry : ∀ s name, Program false false (entry s name)) (state : σ) :
    Program b false (foldEntries entry state) := by
  refine .repeating _ fun (first, s) => .bind (nextKey? first) fun name => ?_
  split
  · exact .bind (hentry s _) fun _ => .done _
  · exact .done _

theorem endObject : Program b false endObject := by
  refine .bind peekToken fun c => ?_
  split
  · exact advance
  · exact .refuseNext _
  · exact .refuseNext _
  · exact .refuseNext _

theorem valueWith {nested : Option (Reader Json)}
    (hnested : ∀ item ∈ nested, Program false false item) : Program b false (valueWith nested) := by
  refine .bind token fun c => ?_
  split
  · cases nested with
    | none => exact .refuseNext _
    | some item =>
      exact .bind advance fun _ =>
        .closing (.bind (items true (hnested item rfl)) fun _ => .done _) .endList
  · cases nested with
    | none => exact .refuseNext _
    | some item =>
      have hentry : ∀ (done : List (String × Json)) (name : String),
          Program false false (do Reader.colon; return (name, ← item) :: done) :=
        fun _ _ => .bind colon fun _ => .bind (hnested item rfl) fun _ => .done _
      exact .bind advance fun _ =>
        .closing (.bind (foldEntries hentry []) fun _ => .done _) endObject
  · exact scalar

theorem value : ∀ {b} depth, Program b false (value depth)
  | _, 0 => valueWith fun _ h => nomatch h
  | _, depth + 1 => valueWith fun _ h => by
    cases h
    exact value depth

theorem text (expected : String) : Program b false (text expected) := by
  refine .bind token fun c => ?_
  split
  · exact .bind advance fun _ => stringRest
  · exact mismatch _

theorem boolean : Program b false boolean := by
  refine .bind token fun c => ?_
  split
  · exact .bind advance fun _ => .bind (letters _) fun _ => .done _
  · exact .bind advance fun _ => .bind (letters _) fun _ => .done _
  · exact mismatch _

theorem optional {item : Reader α} (hitem : Program false false item) :
    Program b false (optional item) := by
  refine .bind peekToken fun c => ?_
  split
  · exact .bind advance fun _ => .bind (letters _) fun _ => .done _
  · exact .bind (.ahead hitem) fun _ => .done _

theorem unit : Program b false unit := by
  refine .bind token fun c => ?_
  split
  · exact .bind advance fun _ => letters _
  · exact mismatch _

theorem list (depth : Nat) {item : Nat → Reader α} (hitem : ∀ d, Program false false (item d)) :
    Program b false (list depth item) := by
  refine .placing (.bind token fun c => ?_)
  split
  · exact entering _ fun d => .closing (items true (hitem d)) .endList
  · exact mismatch _

theorem endDocument : Program b false endDocument := by
  refine .bind peekToken fun c => ?_
  split
  · exact .done _
  · exact .refuseNext _

theorem document {body : Nat → Reader α} (hbody : ∀ d, Program false false (body d)) :
    Program false false (document body) :=
  .bind (hbody _) fun _ => .bind endDocument fun _ => .done _

/-! ### Values that are passed over -/

theorem skipClosers (state : SkipState) : Program b false (skipClosers state) := by
  refine .repeating state fun s => .bind peekToken fun c => ?_
  split
  · exact .refuseNext _
  · refine .ite (.bind advance fun _ => .done _) (.ite (.bind advance fun _ => ?_)
      (.ite (.refuseNext _) (.done _)))
    split
    · exact .done _
    · exact .done _

theorem skipKey : Program b false skipKey := by
  refine .bind peekToken fun c => ?_
  split
  · exact .bind advance fun _ => .bind skipString fun _ => colon
  · exact .refuseNext _
  · exact .refuseNext _

theorem skipToken : Program b false skipToken := by
  refine .bind token fun c => ?_
  split
  · exact .bind advance fun _ => .done _
  · exact .bind advance fun _ => .done _
  · exact .bind advance fun _ => .bind (letters _) fun _ => .done _
  · exact .bind advance fun _ => .bind (letters _) fun _ => .done _
  · exact .bind advance fun _ => .bind (letters _) fun _ => .done _
  · exact .bind advance fun _ => .bind skipString fun _ => .done _
  · exact .bind advance fun _ => .bind skipNumber fun _ => .done _
  · exact .ite (.bind skipNumber fun _ => .done _) (.refuseNext _)

theorem skipValue : Program b false skipValue := by
  refine .repeating [] fun stack => .bind skipToken fun opened => ?_
  split
  · exact .done _
  · refine .bind (skipClosers _) fun brackets => ?_
    split
    · exact .done _
    · exact .done _
    · exact .bind skipKey fun _ => .done _

/-! ### Records and words -/

theorem ofExcept (outcome : Except Cause α) : Program b false (ofExcept outcome) := by
  cases outcome with
  | ok a => exact .done a
  | error cause => exact .refuseShape cause

theorem identifier [Vocabulary α] : Program b false (identifier : Reader α) :=
  .placing (.bind (text _) fun _ => ofExcept _)

theorem wordKey [Vocabulary α] : Program b false (wordKey : Reader α) := by
  refine .bind peekToken fun c => ?_
  split
  · exact identifier
  · exact .refuseNext _
  · exact .refuseNext _
  · exact .refuseNext _

theorem word [Vocabulary α] (depth : Nat) : Program b false (word depth : Reader α) := by
  refine .bind token fun c => ?_
  split
  · exact identifier
  · refine entering _ fun _ => .bind wordKey fun _ => .bind colon fun _ => .bind unit fun _ =>
      .bind peekToken fun c => ?_
    split
    · exact .bind advance fun _ => .done _
    · exact .refuse _
    · exact .refuse _
  · exact .refuseNext _

variable {r : Record Reader δ α}

theorem recordEntry (hslots : ∀ slot ∈ r.slots, ∀ draft, Program false false (slot.fill draft))
    (draft : δ) (name : String) : Program b false (recordEntry r draft name) := by
  unfold Reader.recordEntry
  split
  · rename_i slot hslot
    exact .ite (.refuseShape _)
      (.bind colon fun _ => hslots slot (List.mem_of_find?_eq_some hslot) draft)
  · exact .bind colon fun _ => .bind skipValue fun _ => .done _

theorem recordItems : ∀ {slots : List (Slot Reader δ)},
    (∀ slot ∈ slots, ∀ draft, Program false false (slot.fill draft)) → ∀ {b} index first draft,
    Program b false (recordItems r slots index first draft)
  | [], _, _, _, _, draft => .done draft
  | slot :: slots, hslots, _, index, first, draft => by
    obtain ⟨hslot, hslots⟩ := List.forall_mem_cons.mp hslots
    exact .bind (nextItem first) fun _ =>
      .ite (.bind (hslot draft) fun _ => recordItems hslots _ _ _)
        (.ite (.refuseShape _) (recordItems hslots _ _ _))

theorem record (depth : Nat) {r : Nat → Record Reader δ α}
    (hslots : ∀ d, ∀ slot ∈ (r d).slots, ∀ draft, Program false false (slot.fill draft)) :
    Program b false (record depth r) := by
  refine .placing (.bind token fun c => ?_)
  split
  · exact entering _ fun d =>
      .closing (.bind (recordItems (hslots d) _ _ _) fun _ => ofExcept _) .endList
  · exact entering _ fun d =>
      .closing (.bind (foldEntries (recordEntry (hslots d)) _) fun _ => ofExcept _) endObject
  · exact mismatch _

end Program
end ClassDiagram.Json.Reader
