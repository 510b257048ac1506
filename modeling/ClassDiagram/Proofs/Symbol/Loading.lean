import ClassDiagram.Proofs.Json.CutShort
import ClassDiagram.Proofs.Json.LockStep
import ClassDiagram.Proofs.Symbol.GraphRuns
import ClassDiagram.Proofs.Symbol.Report

/-! # Loading texts and streams

A document is loaded from a text or from a stream of bytes, which may fail.  Its reader is a program
(`program_document`), so the laws of programs apply: a text and the stream of its bytes are read in
lock step and hence loaded alike (`Graph.ofStream_bytes`), and a stream that fails gives no graph,
and refusals that hold for the whole document (`Graph.ofStream_broken`).  Where a document is
refused is a place in the input, and the report tells it together with the whole message
(`Graph.refusals_in_input`). -/

namespace ClassDiagram

open Json (Cause Ending Fault Lawful Reader Slice Slot Source Stream)
open Json.Reader (Program Placed)

/-! ### The readers of declarations -/

variable {b b' : Bool}

theorem program_memberEntry (depth : Nat) (draft : MemberDraft) (name : String) :
    Program b false (draft.entry depth name) := by
  unfold MemberDraft.entry
  split
  · exact .ite (.refuseShape _) (.bind .colon fun _ => .bind .identifier fun _ => .done _)
  · exact .bind .colon fun _ => .bind (.value depth) fun _ => .done _

theorem program_readTagged (depth : Nat) : Program b false (Member.readTagged depth) := by
  refine .placing (.bind .token fun c => ?_)
  split
  · refine .entering _ fun depth => .closing (.bind (.nextItem true) fun _ => .ite ?_ ?_) .endList
    · exact .bind .identifier fun _ => .bind (.items false (.value depth)) fun _ => .done _
    · exact .refuseShape _
  · refine .entering _ fun depth => .closing ?_ .endObject
    exact .bind (.foldEntries (program_memberEntry depth) _) fun _ =>
      .bind (.ofExcept _) fun _ => .done _
  · exact .mismatch _

theorem program_readMember (depth : Nat) : Program b false (Member.read depth) :=
  .bind (program_readTagged depth) fun _ => .ofExcept _

theorem program_readText : Program b false readText := .text _

theorem program_slot {δ β : Type} {take : Reader β} (htake : Program b b' take) {name : String}
    {required : Bool} {get : δ → Option β} {put : δ → β → δ} (draft : δ) :
    Program b b' ((Slot.of name required get put take).fill draft) :=
  .map _ htake

theorem program_readType (depth : Nat) : Program b false (TypeDecl.read depth) := by
  refine .record depth fun depth => ?_
  simp only [TypeDecl.record, List.forall_mem_cons]
  exact ⟨program_slot program_readText, program_slot (.word depth), program_slot .boolean,
    program_slot (.word depth), program_slot (.list depth program_readMember),
    program_slot (.optional program_readText), program_slot (.list depth fun _ => program_readText),
    program_slot (.list depth fun _ => program_readText), List.forall_mem_nil _⟩

theorem program_readDocument (depth : Nat) : Program b false (readDocument depth) := by
  refine .record depth fun depth => ?_
  simp only [documentRecord, List.forall_mem_cons]
  exact ⟨program_slot (.list depth program_readType), List.forall_mem_nil _⟩

/-- The reader of a whole document is a program. -/
theorem program_document : Program false false (Reader.document readDocument) :=
  .document fun depth => program_readDocument depth

/-- Every refusal of a document has a place. -/
theorem placed_readDocument : Placed (Reader.document readDocument) :=
  Json.Reader.placed_document fun _ => Json.Reader.placed_placing _

/-! ### What a document is refused for -/

variable {κ α : Type}

/-- What a document is refused for is reported with its whole message. -/
theorem readFrom_of_refused [Source κ] {body : Nat → Reader α} {c c' : κ} {input : List UInt8}
    {cause : Cause} {offset : Nat}
    (h : (Reader.document body).run c =
      .error (.refused cause (some (.ofOffset input offset))) c') :
    readFrom body c = .error (.refusedAt input cause.message offset) := by
  rw [readFrom, h]
  exact congrArg Except.error (LoadError.ofReport_ofOffset _ _ _)

/-- A text and the stream of its bytes hold the same declarations, or they are refused for the same
cause; the stream may have fetched one byte more. -/
theorem readDocument_inStep (input : List UInt8) :
    (∃ types s t, (Reader.document readDocument).run (Slice.start input) = .ok types s ∧
      (Reader.document readDocument).run (Stream.start input .closed) = .ok types t) ∨
    ∃ cause p q s t,
      (Reader.document readDocument).run (Slice.start input) =
        .error (.refused cause (some (.ofOffset input p))) s ∧
      (Reader.document readDocument).run (Stream.start input .closed) =
        .error (.refused cause (some (.ofOffset input q))) t ∧
      (q = p ∨ q = p + 1) ∧ q ≤ input.length := by
  have hmeets := program_document.meets Slice.lawful_inStep _ _ (Slice.beside_start input)
  generalize hs : (Reader.document readDocument).run (Slice.start input) = out at hmeets
  generalize ht : (Reader.document readDocument).run (Stream.start input .closed) = out' at hmeets
  cases hmeets with
  | ok types _ => exact .inl ⟨types, _, _, rfl, rfl⟩
  | alike h =>
    cases h.1 with
    | shape cause => exact absurd (placed_readDocument _ _ _ _ hs) Bool.false_ne_true
    | placed cause hoffset hle => exact .inr ⟨cause, _, _, _, _, rfl, rfl, hoffset, hle⟩
  | excused h => exact h.elim

/-- A stream that is not read either could not be delivered or is refused at a place in its
input. -/
theorem readDocument_fault {input : List UInt8} {ending : Ending} {fault : Fault} {t : Stream}
    (h : (Reader.document readDocument).run (Stream.start input ending) = .error fault t) :
    (∃ reason, ending = .broken reason ∧ fault = .unreadable reason) ∨
      ∃ cause offset, offset ≤ input.length ∧
        fault = .refused cause (some (.ofOffset input offset)) := by
  cases Stream.within_of_error program_document (Stream.standing_start input ending) h with
  | unreadable hbroken => exact .inl ⟨_, hbroken, rfl⟩
  | shape cause => exact absurd (placed_readDocument _ _ _ _ h) Bool.false_ne_true
  | refused cause hoffset => exact .inr ⟨cause, _, hoffset, rfl⟩

namespace Graph

/-- Declarations are refused only for a missing name. -/
theorem addAll_eq_error {g : Graph} {types : List TypeDecl} {e : LoadError}
    (h : g.addAll types = .error e) : ∃ count, e = .nameless count := by
  induction types generalizing g with
  | nil => cases h
  | cons t types ih =>
    rw [addAll_cons] at h
    unfold add at h
    split at h
    · cases h
      exact ⟨g.size, rfl⟩
    · exact ih h

/-- Whether loading fails with a given error can be computed. -/
instance decidableEqError (e : LoadError) : (outcome : Except LoadError Graph) →
    Decidable (outcome = .error e)
  | .ok _ => isFalse nofun
  | .error e' => decidable_of_iff (e' = e) ⟨congrArg _, Except.error.inj⟩

/-- **A text and the stream of its bytes are loaded alike**: both give the same graph, or the same
declaration is refused, or the document is refused with the same message.  The offsets that the two
reports tell are the same, or the stream's is one more. -/
theorem ofStream_bytes (text : String) :
    (∃ g, ofText text = .ok g ∧ ofStream (Text.bytes text) .closed = .ok g) ∨
    (∃ m, ofText text = .error (.invalidSymbol m) ∧
      ofStream (Text.bytes text) .closed = .error (.invalidSymbol m)) ∨
    ∃ m p q, ofText text = .error (.refusedAt (Text.bytes text) m p) ∧
      ofStream (Text.bytes text) .closed = .error (.refusedAt (Text.bytes text) m q) ∧
      (q = p ∨ q = p + 1) ∧ q ≤ (Text.bytes text).length ∧
      ∀ m' p' q', p' ≤ (Text.bytes text).length → q' ≤ (Text.bytes text).length →
        ofText text = .error (.refusedAt (Text.bytes text) m' p') →
        ofStream (Text.bytes text) .closed = .error (.refusedAt (Text.bytes text) m' q') →
        m' = m ∧ p' = p ∧ q' = q := by
  unfold ofText ofStream readString
  rcases readDocument_inStep (Text.bytes text) with
    ⟨types, s, t, hs, ht⟩ | ⟨cause, p, q, s, t, hs, ht, hoffset, hle⟩
  · rw [readFrom, hs, readFrom, ht]
    cases hadd : empty.addAll types with
    | ok g => exact .inl ⟨g, hadd, hadd⟩
    | error e =>
      obtain ⟨count, rfl⟩ := addAll_eq_error hadd
      exact .inr (.inl ⟨_, hadd, hadd⟩)
  · rw [readFrom_of_refused hs, readFrom_of_refused ht]
    refine .inr (.inr ⟨_, p, q, rfl, rfl, hoffset, hle, fun m' p' q' hp' hq' htext hstream => ?_⟩)
    have hp : p ≤ (Text.bytes text).length := by omega
    obtain ⟨hm, hpp'⟩ := LoadError.refusedAt_injective hp hp' (Except.error.inj htext)
    obtain ⟨-, hqq'⟩ := LoadError.refusedAt_injective hle hq' (Except.error.inj hstream)
    exact ⟨hm.symm, hpp'.symm, hqq'.symm⟩

/-- A string that nobody asks for holds a line break.  The stream has looked at it and so stands on
the next line. -/
example :
    ofText "\x7b\"x\":\"\n\"\x7d" = .error (.parse Cause.controlCharacter.message 1 6) ∧
      ofStream (Text.bytes "\x7b\"x\":\"\n\"\x7d") .closed =
        .error (.parse Cause.controlCharacter.message 2 0) := by
  decide +kernel

theorem ofStream_of_refused {input : List UInt8} {ending : Ending} {cause : Cause} {offset : Nat}
    {t : Stream} (h : (Reader.document readDocument).run (Stream.start input ending) =
      .error (.refused cause (some (.ofOffset input offset))) t) :
    ∃ line column, ofStream input ending = .error (.parse cause.message line column) := by
  unfold ofStream
  rw [readFrom_of_refused h]
  exact ⟨_, _, rfl⟩

/-- **A failing stream gives no graph, and what it is refused for stands**: either the failure is
reported, or the document is refused, and then the whole document is refused as well.  The message
is the same, unless the failure came behind a comma whose list ends next. -/
theorem ofStream_broken (delivered : List UInt8) (reason : String) :
    ofStream delivered (.broken reason) = .error (.io reason) ∨
    ∃ m line column, ofStream delivered (.broken reason) = .error (.parse m line column) ∧
      ∀ missing, ∃ m' line' column',
        ofStream (delivered ++ missing) .closed = .error (.parse m' line' column') ∧
        (m' = m ∨ m = "trailing characters" ∧ m' = "trailing comma" ∧
          Json.CutAtComma delivered missing) := by
  cases h : (Reader.document readDocument).run (Stream.start delivered (.broken reason)) with
  | ok types t =>
    exact absurd h (Stream.document_ne_ok (fun depth => program_readDocument depth)
      (Stream.standing_start delivered (.broken reason)))
  | error fault t =>
    rcases readDocument_fault h with ⟨reason', hbroken, rfl⟩ | ⟨cause, offset, -, rfl⟩
    · cases hbroken
      refine .inl ?_
      unfold ofStream
      rw [readFrom, h]
      rfl
    · obtain ⟨line, column, hcut⟩ := ofStream_of_refused h
      refine .inr ⟨_, line, column, hcut, fun missing => ?_⟩
      -- the two runs stand at the same place, one of them with the missing bytes still to come
      have hwhole := program_document.meets Stream.lawful_cutShort _ _
        (Stream.completed_start delivered missing reason)
      rw [h] at hwhole
      generalize h' : (Reader.document readDocument).run
        (Stream.start (delivered ++ missing) .closed) = out at hwhole
      cases hwhole with
      | excused hfault =>
        obtain ⟨_, hfault⟩ := hfault
        cases hfault
      | alike hstands =>
        obtain ⟨_, place', hstands⟩ := hstands
        rcases readDocument_fault h' with ⟨_, hbroken, -⟩ | ⟨cause', offset', -, hfault⟩
        · cases hbroken
        · cases hfault
          obtain ⟨line', column', hrefused⟩ := ofStream_of_refused h'
          refine ⟨_, line', column', hrefused, ?_⟩
          cases hstands with
          | same => exact .inl rfl
          | comma hcomma => exact .inr ⟨rfl, rfl, hcomma⟩

/-- The list of types is complete, and a comma follows: behind it the failing delivery decides what
the refusal says. -/
theorem not_ofStream_broken_final :
    ¬ ∀ (delivered : List UInt8) (reason : String),
      ofStream delivered (.broken reason) = .error (.io reason) ∨
      ∃ m line column, ofStream delivered (.broken reason) = .error (.parse m line column) ∧
        ∀ missing, ∃ line' column',
          ofStream (delivered ++ missing) .closed = .error (.parse m line' column') := by
  intro hfinal
  have hcut : ofStream (Text.bytes "[[],") (.broken "lost") =
      .error (.parse "trailing characters" 1 4) := by decide +kernel
  have hwhole : ofStream (Text.bytes "[[]," ++ Text.bytes "]") .closed =
      .error (.parse "trailing comma" 1 5) := by decide +kernel
  rcases hfinal (Text.bytes "[[],") "lost" with hio | ⟨m, line, column, hparse, hmissing⟩
  · rw [hcut] at hio
    cases hio
  · obtain ⟨line', column', hsame⟩ := hmissing (Text.bytes "]")
    rw [hcut] at hparse
    rw [hwhole] at hsame
    cases hparse
    exact absurd (LoadError.parse.inj (Except.error.inj hsame)).1 (by decide)

end Graph

/-! ### Where a document is refused -/

/-- A refusal of `input` as it is reported: all of the cause's message, and the line and the column
of an offset in the input. -/
structure LoadError.Reports (input : List UInt8) (cause : Cause) (offset : Nat) (message : String)
    (line column : Nat) : Prop where
  message_eq : message = cause.message
  offset_le : offset ≤ input.length
  line_eq : line = 1 + (input.take offset).count Text.newline
  /-- The column counts the bytes behind the last of these line breaks. -/
  column_eq : column = ((input.take offset).reverse.takeWhile (· != Text.newline)).length
  one_le_line : 1 ≤ line

theorem LoadError.reports_of_refusedAt {input : List UInt8} {cause : Cause} {offset : Nat}
    {m : String} {line column : Nat} (hoffset : offset ≤ input.length)
    (h : LoadError.refusedAt input cause.message offset = .parse m line column) :
    Text.Position.ofOffset input offset = ⟨line, column⟩ ∧
      LoadError.Reports input cause offset m line column := by
  obtain ⟨rfl, rfl, rfl⟩ := LoadError.parse.inj h
  exact ⟨rfl, rfl, hoffset, rfl, rfl, Text.Position.one_le_line _⟩

namespace Graph

/-- Declarations come to be refused only after the document has been read. -/
theorem readFrom_of_parse [Source κ] {c : κ} {m : String} {line column : Nat}
    (h : (readFrom readDocument c >>= empty.addAll) = .error (.parse m line column)) :
    readFrom readDocument c = .error (.parse m line column) := by
  cases hread : readFrom readDocument c with
  | error e =>
    rw [hread] at h
    exact congrArg Except.error (Except.error.inj h)
  | ok types =>
    rw [hread] at h
    obtain ⟨count, hcount⟩ := addAll_eq_error h
    cases hcount

/-- **A refusal is placed in the input, and its message is whole.**  Texts and streams report the
refusal of their reader at the place where it was raised, and that place is the line and the column
of an offset in the input.  A string is refused at a place counted back from its end: for as many
bytes as it denotes, that is going back in its column, and it is there that a stream stands. -/
theorem refusals_in_input :
    (∀ text m line column, ofText text = .error (.parse m line column) →
      ∃ cause offset s,
        (Reader.document readDocument).run (Slice.start (Text.bytes text)) =
          .error (.refused cause (some ⟨line, column⟩)) s ∧
        LoadError.Reports (Text.bytes text) cause offset m line column) ∧
    (∀ input ending m line column, ofStream input ending = .error (.parse m line column) →
      ∃ cause offset t,
        (Reader.document readDocument).run (Stream.start input ending) =
          .error (.refused cause (some ⟨line, column⟩)) t ∧
        LoadError.Reports input cause offset m line column) ∧
    (∀ (κ : Type) [Source κ] [Lawful κ] (input body : List UInt8) (n : Nat) (c c' : κ),
      Lawful.rest c <:+ input → Reader.stringBody.run c = .ok body c' → n ≤ body.length →
      n ≤ (Text.Position.ofOffset input (input.length - Source.left c')).column ∧
      Text.Position.ofOffset input (input.length - (Source.left c' + n)) =
        ⟨(Text.Position.ofOffset input (input.length - Source.left c')).line,
          (Text.Position.ofOffset input (input.length - Source.left c')).column - n⟩) ∧
    ∀ input ending body (t t' : Stream), t.Standing input ending →
      Reader.stringBody.run t = .ok body t' →
      t'.place = .ofOffset input (input.length - Source.left t') := by
  refine ⟨fun text m line column h => ?_, fun input ending m line column h => ?_,
    fun κ _ _ input body n c c' hc hbody hn => ?_, fun input ending body t t' ht hbody => ?_⟩
  · have hread := readFrom_of_parse h
    rcases readDocument_inStep (Text.bytes text) with
      ⟨types, s, t, hs, -⟩ | ⟨cause, p, q, s, t, hs, -, hoffset, hle⟩
    · rw [readFrom, hs] at hread
      cases hread
    · rw [readFrom_of_refused hs] at hread
      obtain ⟨hplace, hreports⟩ :=
        LoadError.reports_of_refusedAt (by omega) (Except.error.inj hread)
      exact ⟨cause, p, s, hplace ▸ hs, hreports⟩
  · have hread := readFrom_of_parse h
    cases ht : (Reader.document readDocument).run (Stream.start input ending) with
    | ok types t =>
      rw [readFrom, ht] at hread
      cases hread
    | error fault t =>
      rcases readDocument_fault ht with ⟨reason, -, rfl⟩ | ⟨cause, offset, hoffset, rfl⟩
      · rw [readFrom, ht] at hread
        cases hread
      · rw [readFrom_of_refused ht] at hread
        obtain ⟨hplace, hreports⟩ :=
          LoadError.reports_of_refusedAt hoffset (Except.error.inj hread)
        exact ⟨cause, offset, t, by rw [hplace], hreports⟩
  · have hpasses : Json.Passes n c c' := (Json.Reader.passes_stringBody hbody).mono (by omega)
    obtain ⟨-, hcolumn, hback⟩ := hpasses.back_ofOffset hc
    exact ⟨hcolumn, hback.symm⟩
  · have ht' := Stream.standing_of_ok .stringBody ht hbody
    exact (Stream.back_of_stringBody ht ht' hbody (Nat.zero_le _)).1

/-- The unknown kind of a member looks like the end of a report, on the second line. -/
def moat : String := "[[[\"Moat\",\"class\",false,\"public\",\n[[\"wall at line 9\"]]]]]"

/-- A name with an escape, a byte that starts no character, and two letters. -/
def brokenName : List UInt8 := Text.bytes "[[[\n\"\\n" ++ 0xFF :: Text.bytes "bc\"]]]"

theorem refusals_in_input_moat :
    (∃ cause offset, LoadError.Reports (Text.bytes moat) cause offset
      "unknown variant `wall at line 9`, expected one of `field`, `method`, `property`" 2 18) ∧
    (∃ cause offset, LoadError.Reports brokenName cause offset "invalid unicode code point" 2 4) ∧
    (3 ≤ (Text.Position.ofOffset brokenName 11).column ∧
      Text.Position.ofOffset brokenName 8 =
        ⟨(Text.Position.ofOffset brokenName 11).line,
          (Text.Position.ofOffset brokenName 11).column - 3⟩) ∧
    ∃ t : Stream, Source.left t = 3 ∧ t.place = .ofOffset (brokenName.drop 5) 6 := by
  obtain ⟨htext, hstream, hstring, hplace⟩ := refusals_in_input
  have hmoat : ofText moat = .error (.parse
      "unknown variant `wall at line 9`, expected one of `field`, `method`, `property`" 2 18) := by
    decide +kernel
  have hname : ofStream brokenName .closed =
      .error (.parse "invalid unicode code point" 2 4) := by
    decide +kernel
  -- behind the opening quote, the reader of strings runs up to the closing one
  have hrun : (match Reader.stringBody.run (Stream.start (brokenName.drop 5) .closed) with
      | .ok body t => decide (body = [0x0A, 0xFF, 0x62, 0x63] ∧ Source.left t = 3)
      | .error _ _ => false) = true := by
    decide +kernel
  obtain ⟨cause, offset, -, -, hreports⟩ := htext _ _ _ _ hmoat
  obtain ⟨cause', offset', -, -, hreports'⟩ := hstream _ _ _ _ _ hname
  cases hbody : Reader.stringBody.run (Stream.start (brokenName.drop 5) .closed) with
  | error fault t =>
    rw [hbody] at hrun
    cases hrun
  | ok body t =>
    rw [hbody] at hrun
    obtain ⟨rfl, hleft⟩ := of_decide_eq_true hrun
    have hback := hstring Stream brokenName _ 3 _ t (List.drop_suffix 5 brokenName) hbody
      (by decide)
    have hstands := hplace _ _ _ _ t (Stream.standing_start (brokenName.drop 5) .closed) hbody
    rw [hleft] at hback hstands
    exact ⟨⟨cause, offset, hreports⟩, ⟨cause', offset', hreports'⟩, hback, t, hleft, hstands⟩

end Graph

end ClassDiagram
