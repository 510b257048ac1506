import ClassDiagram.Json.Reader.Record
import ClassDiagram.Proofs.Json.StringReading
import Mathlib.Data.List.Forall2

/-! # Readers accept spellings

`Accepts r v a` says that in front of every spelling of the value `v`, with blanks before it and
whatever behind it, the reader `r` yields `a` and stops right behind the spelling.  The readers of
strings, truth values and words accept what they should, and the combinators for lists, objects and
records pass acceptance on from the parts to the whole (`accepts_list`, `accepts_record`).

The entries of an object are read into a state one after the other; `Leads` composes what the
single entries do to it. -/

namespace ClassDiagram.Json

variable {σ : Type}

/-- The entries lead from one state to another, one step after the other. -/
inductive Leads (step : σ → String → Json → σ → Prop) : σ → List (String × Json) → σ → Prop
  | nil (s : σ) : Leads step s [] s
  | cons {s s' s'' : σ} {name : String} {v : Json} {entries : List (String × Json)} :
      step s name v s' → Leads step s' entries s'' → Leads step s ((name, v) :: entries) s''

theorem Leads.single {step : σ → String → Json → σ → Prop} {s s' : σ} {name : String} {v : Json}
    (h : step s name v s') : Leads step s [(name, v)] s' :=
  .cons h (.nil s')

theorem Leads.append {step : σ → String → Json → σ → Prop} {s s' s'' : σ}
    {entries entries' : List (String × Json)} (h : Leads step s entries s')
    (h' : Leads step s' entries' s'') : Leads step s (entries ++ entries') s'' := by
  induction h with
  | nil s => exact h'
  | cons he _ ih => exact .cons he (ih h')

end ClassDiagram.Json

namespace ClassDiagram.Json.Reader

variable {α β δ σ : Type}

/-- The reader takes every spelling of `v` for `a`. -/
def Accepts (r : Reader α) (v : Json) (a : α) : Prop :=
  ∀ gap text rest : List UInt8, Blank gap → Spells v text →
    Runs r (gap ++ (text ++ rest)) a rest

/-! ### Tokens -/

theorem runs_token {gap : List UInt8} (hgap : Blank gap) {b : UInt8} (hb : isBlank b = false)
    (rest : List UInt8) : Runs token (gap ++ b :: rest) (Char.ofUInt8 b) (b :: rest) :=
  (runs_peekToken hgap hb rest).bind (.pure _ _)

theorem runs_letters {bs : List UInt8} {cs : List Char} (h : bs.map Char.ofUInt8 = cs)
    (rest : List UInt8) : Runs (letters cs) (bs ++ rest) () rest := by
  induction bs generalizing cs with
  | nil =>
      rw [List.map_nil] at h
      subst h
      exact .pure () rest
  | cons b bs ih =>
      rw [List.map_cons] at h
      subst h
      refine (runs_next b (bs ++ rest)).bind ?_
      simp only [if_pos]
      exact ih rfl

/-- The bytes with which a value can start. -/
theorem exists_front {v : Json} {text : List UInt8} (h : Spells v text) :
    ∃ b tail, text = b :: tail ∧
      (b = 0x6E ∧ v = .null ∨ b = 0x74 ∨ b = 0x66 ∨ b = 0x22 ∨ b = 0x5B ∨ b = 0x7B) := by
  cases h with
  | null => exact ⟨_, _, rfl, .inl ⟨rfl, rfl⟩⟩
  | bool b =>
      cases b with
      | true => exact ⟨_, _, rfl, .inr (.inl rfl)⟩
      | false => exact ⟨_, _, rfl, .inr (.inr (.inl rfl))⟩
  | string _ => exact ⟨_, _, rfl, .inr (.inr (.inr (.inl rfl)))⟩
  | array _ => exact ⟨_, _, rfl, .inr (.inr (.inr (.inr (.inl rfl))))⟩
  | object _ => exact ⟨_, _, rfl, .inr (.inr (.inr (.inr (.inr rfl))))⟩

theorem quotation_append (body rest : List UInt8) :
    quotation body ++ rest = 0x22 :: (body ++ 0x22 :: rest) := by
  rw [quotation, List.cons_append, List.append_assoc]
  rfl

/-! ### Scalars -/

theorem accepts_text (expected s : String) : Accepts (text expected) (.string s) s := by
  intro gap text rest hgap htext
  cases htext with
  | string hbody =>
      rw [quotation_append]
      refine (runs_token hgap rfl _).bind ?_
      exact (runs_advance 0x22 _).bind (runs_stringRest hbody rest)

theorem accepts_boolean (b : Bool) : Accepts boolean (.bool b) b := by
  intro gap text rest hgap htext
  cases htext
  cases b with
  | true =>
      refine (runs_token hgap rfl _).bind ?_
      refine (runs_advance 0x74 _).bind ?_
      exact (runs_letters rfl rest).bind (.pure true rest)
  | false =>
      refine (runs_token hgap rfl _).bind ?_
      refine (runs_advance 0x66 _).bind ?_
      exact (runs_letters rfl rest).bind (.pure false rest)

theorem accepts_identifier [Vocabulary α] {name : String} {a : α}
    (h : Vocabulary.ofName name = .ok a) : Accepts identifier (.string name) a := by
  intro gap text rest hgap htext
  refine Runs.placing ((accepts_text _ name gap text rest hgap htext).bind ?_)
  rw [h]
  exact .pure a rest

theorem accepts_word [Vocabulary α] (depth : Nat) {name : String} {a : α}
    (h : Vocabulary.ofName name = .ok a) : Accepts (word depth) (.string name) a := by
  intro gap text rest hgap htext
  have hident := accepts_identifier h [] text rest .nil htext
  cases htext with
  | string hbody =>
      rw [quotation_append] at hident ⊢
      exact (runs_token hgap rfl _).bind hident

/-- An optional value that is not `null`. -/
theorem accepts_optional {item : Reader α} {v : Json} {a : α} (hv : v ≠ .null)
    (h : Accepts item v a) : Accepts (optional item) v (some a) := by
  intro gap text rest hgap htext
  have hitem : Runs (do return some (← item)) (text ++ rest) (some a) rest :=
    (h [] text rest .nil htext).bind (.pure (some a) rest)
  obtain ⟨b, tail, rfl, hb⟩ := exists_front htext
  rcases hb with ⟨-, hnull⟩ | rfl | rfl | rfl | rfl | rfl
  · exact absurd hnull hv
  all_goals exact (runs_peekToken hgap rfl _).bind hitem

/-- An optional value that is `null`. -/
theorem accepts_optional_null (item : Reader α) : Accepts (optional item) .null none := by
  intro gap text rest hgap htext
  cases htext
  refine (runs_peekToken hgap rfl _).bind ?_
  refine (runs_advance 0x6E _).bind ?_
  exact (runs_letters rfl rest).bind (.pure none rest)

/-- A string that nobody asks for is passed over. -/
theorem accepts_skipValue (s : String) : Accepts skipValue (.string s) () := by
  intro gap text rest hgap htext
  cases htext with
  | @string _ body hbody =>
      have htoken : Runs skipToken (gap ++ 0x22 :: (body ++ 0x22 :: rest)) none rest := by
        refine (runs_token hgap rfl _).bind ?_
        refine (runs_advance 0x22 _).bind ?_
        exact (runs_skipString hbody rest).bind (.pure none rest)
      rw [quotation_append]
      exact Runs.done (htoken.bind (.pure _ rest))

/-! ### Lists -/

theorem runs_nextItem_end {gap : List UInt8} (hgap : Blank gap) (first : Bool)
    (rest : List UInt8) : Runs (nextItem first) (gap ++ 0x5D :: rest) false (0x5D :: rest) :=
  (runs_peekToken hgap rfl rest).bind (.pure false _)

/-- Behind its separator there is an item. -/
theorem runs_nextItem {first : Bool} {sep text : List UInt8} {v : Json}
    (hsep : Separator first sep) (hv : Spells v text) (rest : List UInt8) :
    Runs (nextItem first) (sep ++ (text ++ rest)) true (text ++ rest) := by
  obtain ⟨b, tail, rfl, hb⟩ := exists_front hv
  cases hsep with
  | first hgap =>
      rcases hb with ⟨rfl, -⟩ | rfl | rfl | rfl | rfl | rfl <;>
        exact (runs_peekToken hgap rfl _).bind (.pure true _)
  | comma hgap hgap' =>
      rw [List.append_assoc]
      refine (runs_peekToken hgap rfl _).bind ?_
      refine (runs_advance 0x2C _).bind ?_
      rcases hb with ⟨rfl, -⟩ | rfl | rfl | rfl | rfl | rfl <;>
        exact (runs_peekToken hgap' rfl _).bind (.pure true _)

theorem runs_endList (rest : List UInt8) : Runs endList (0x5D :: rest) () rest :=
  (runs_peekToken .nil rfl rest).bind (runs_advance 0x5D rest)

/-- The items up to the closing bracket, which is left. -/
theorem runs_foldItems {item : Reader α} {vs : List Json} {as : List α}
    (h : List.Forall₂ (Accepts item) vs as) (rest : List UInt8) :
    ∀ {first : Bool} {inner : List UInt8} (done : List α), SpellsItems first vs inner →
      Runs (foldItems first (fun done => return (← item) :: done) done) (inner ++ rest)
        (as.reverse ++ done) (0x5D :: rest) := by
  induction h with
  | nil =>
      intro first inner done hinner
      cases hinner with
      | close hgap =>
          rw [List.append_assoc]
          exact Runs.done ((runs_nextItem_end hgap first rest).bind (.pure _ _))
  | @cons v a vs as hv _ ih =>
      intro first inner done hinner
      cases hinner with
      | @item _ sep text inner' _ _ hsep htext hinner' =>
          have hitem : Runs (do return (← item) :: done) (text ++ (inner' ++ rest)) (a :: done)
              (inner' ++ rest) := (hv [] text _ .nil htext).bind (.pure _ _)
          have hstep : Runs (itemStep (fun done => return (← item) :: done) (first, done))
              (sep ++ (text ++ (inner' ++ rest))) (.again (false, a :: done)) (inner' ++ rest) :=
            (runs_nextItem hsep htext _).bind (hitem.bind (.pure _ _))
          obtain ⟨b, tail, rfl, -⟩ := exists_front htext
          rw [List.append_assoc, List.append_assoc, List.reverse_cons, List.append_assoc]
          refine hstep.again ?_ (ih (a :: done) hinner')
          simp only [List.length_append, List.length_cons]
          omega

theorem runs_items {item : Reader α} {vs : List Json} {as : List α} {inner : List UInt8}
    (h : List.Forall₂ (Accepts item) vs as) (hinner : SpellsItems true vs inner)
    (rest : List UInt8) : Runs (items true item) (inner ++ rest) as (0x5D :: rest) := by
  refine (runs_foldItems h rest [] hinner).bind ?_
  rw [List.append_nil, List.reverse_reverse]
  exact .pure as _

/-- A list is accepted if its items are, one bracket deeper. -/
theorem accepts_list {depth : Nat} (item : Nat → Reader α) {vs : List Json} {as : List α}
    (h : List.Forall₂ (Accepts (item depth)) vs as) :
    Accepts (list (depth + 1) item) (.array vs) as := by
  intro gap text rest hgap htext
  cases htext with
  | array hinner =>
      refine Runs.placing ((runs_token hgap rfl _).bind ?_)
      refine (runs_advance 0x5B _).bind ?_
      exact (runs_items h hinner rest).closing (runs_endList rest)

/-! ### Objects -/

/-- The reader takes a colon and every spelling of `v` for `a`. -/
def AcceptsEntry (r : Reader α) (v : Json) (a : α) : Prop :=
  ∀ gap gap' text rest : List UInt8, Blank gap → Blank gap' → Spells v text →
    Runs r (gap ++ 0x3A :: (gap' ++ (text ++ rest))) a rest

/-- The entries lead from one state to another, each by its key and every spelling of its value. -/
abbrev AcceptsEntries (entry : σ → String → Reader σ) : σ → List (String × Json) → σ → Prop :=
  Leads fun s name v s' => AcceptsEntry (entry s name) v s'

theorem runs_colon {gap : List UInt8} (hgap : Blank gap) (rest : List UInt8) :
    Runs colon (gap ++ 0x3A :: rest) () rest :=
  (runs_peekToken hgap rfl rest).bind (runs_advance 0x3A rest)

/-- The colon is read first, the value after it. -/
theorem Accepts.entry {r : Reader α} {v : Json} {a : α} (h : Accepts r v a) :
    AcceptsEntry (do colon; r) v a :=
  fun _ gap' text rest hgap hgap' htext =>
    (runs_colon hgap _).bind (h gap' text rest hgap' htext)

theorem runs_nextKey?_end {gap : List UInt8} (hgap : Blank gap) (first : Bool)
    (rest : List UInt8) : Runs (nextKey? first) (gap ++ 0x7D :: rest) none (0x7D :: rest) :=
  (runs_peekToken hgap rfl rest).bind (.pure none _)

theorem runs_key {gap body : List UInt8} {name : String} (hgap : Blank gap)
    (hbody : SpellsChars name.toList body) (rest : List UInt8) :
    Runs key (gap ++ (quotation body ++ rest)) name rest := by
  rw [quotation_append]
  refine (runs_peekToken hgap rfl _).bind ?_
  exact (runs_advance 0x22 _).bind (runs_stringRest hbody rest)

theorem runs_nextKey? {first : Bool} {sep body : List UInt8} {name : String}
    (hsep : Separator first sep) (hbody : SpellsChars name.toList body) (rest : List UInt8) :
    Runs (nextKey? first) (sep ++ (quotation body ++ rest)) (some name) rest := by
  cases hsep with
  | first hgap =>
      have hkey := runs_key .nil hbody rest
      rw [quotation_append] at hkey ⊢
      exact (runs_peekToken hgap rfl _).bind (hkey.bind (.pure _ _))
  | comma hgap hgap' =>
      rw [List.append_assoc]
      refine (runs_peekToken hgap rfl _).bind ?_
      refine (runs_advance 0x2C _).bind ?_
      exact (runs_key hgap' hbody rest).bind (.pure _ _)

theorem runs_endObject (rest : List UInt8) : Runs endObject (0x7D :: rest) () rest :=
  (runs_peekToken .nil rfl rest).bind (runs_advance 0x7D rest)

/-- The entries up to the closing brace, which is left. -/
theorem runs_repeating_entryStep {entry : σ → String → Reader σ} {s s' : σ}
    {entries : List (String × Json)} (h : AcceptsEntries entry s entries s') (rest : List UInt8) :
    ∀ {first : Bool} {inner : List UInt8}, SpellsEntries first entries inner →
      Runs (repeating (entryStep entry) (first, s)) (inner ++ rest) s' (0x7D :: rest) := by
  induction h with
  | nil s =>
      intro first inner hinner
      cases hinner with
      | close hgap =>
          rw [List.append_assoc]
          exact Runs.done ((runs_nextKey?_end hgap first rest).bind (.pure _ _))
  | @cons s s₁ s₂ key v entries hv _ ih =>
      intro first inner hinner
      cases hinner with
      | @entry _ sep body gap gap' text inner' _ _ _ hsep hbody hgap hgap' htext hinner' =>
          have hentry := hv gap gap' text (inner' ++ rest) hgap hgap' htext
          have hstep : Runs (entryStep entry (first, s))
              (sep ++ (quotation body ++ (gap ++ 0x3A :: (gap' ++ (text ++ (inner' ++ rest))))))
              (.again (false, s₁)) (inner' ++ rest) :=
            (runs_nextKey? hsep hbody _).bind (hentry.bind (.pure _ _))
          simp only [List.append_assoc, List.cons_append] at hstep ⊢
          refine hstep.again ?_ (ih hinner')
          simp only [List.length_append, List.length_cons]
          omega

theorem runs_foldEntries {entry : σ → String → Reader σ} {s s' : σ}
    {entries : List (String × Json)} {inner : List UInt8} (h : AcceptsEntries entry s entries s')
    (hinner : SpellsEntries true entries inner) (rest : List UInt8) :
    Runs (foldEntries entry s) (inner ++ rest) s' (0x7D :: rest) :=
  runs_repeating_entryStep h rest hinner

/-! ### Records -/

theorem Accepts.map {r : Reader α} {v : Json} {a : α} (f : α → β) (h : Accepts r v a) :
    Accepts (f <$> r) v (f a) :=
  fun gap text rest hgap htext => (h gap text rest hgap htext).map f

/-- An entry goes into the slot of its name, if that slot is still free. -/
theorem acceptsEntry_recordEntry {r : Record Reader δ α} {draft draft' : δ} {name : String}
    {slot : Slot Reader δ} {v : Json} (hslot : r.slot? name = some slot)
    (hfree : slot.filled draft = false) (h : Accepts (slot.fill draft) v draft') :
    AcceptsEntry (recordEntry r draft name) v draft' := by
  unfold recordEntry
  simp only [hslot, hfree]
  exact h.entry

/-- An entry of no slot leaves the draft as it is. -/
theorem acceptsEntry_extra {r : Record Reader δ α} {name : String} (hslot : r.slot? name = none)
    (draft : δ) (s : String) : AcceptsEntry (recordEntry r draft name) (.string s) draft := by
  have hskip : Accepts (do skipValue; return draft) (.string s) draft :=
    fun gap text rest hgap htext =>
      (accepts_skipValue s gap text rest hgap htext).bind (.pure draft rest)
  unfold recordEntry
  simp only [hslot]
  exact hskip.entry

/-- A record is accepted if its entries lead to a draft that can be finished. -/
theorem accepts_record {depth : Nat} (r : Nat → Record Reader δ α) (draft : δ) {a : α}
    {entries : List (String × Json)}
    (h : AcceptsEntries (recordEntry (r depth)) (r depth).blank entries draft)
    (hfinish : (r depth).finish draft = .ok a) :
    Accepts (record (depth + 1) r) (.object entries) a := by
  intro gap text rest hgap htext
  cases htext with
  | object hinner =>
      refine Runs.placing ((runs_token hgap rfl _).bind ?_)
      refine (runs_advance 0x7B _).bind ?_
      refine Runs.closing ((runs_foldEntries h hinner rest).bind ?_) (runs_endObject rest)
      rw [hfinish]
      exact .pure a _

/-! ### Values of any kind -/

theorem accepts_value_string (depth : Nat) (s : String) :
    Accepts (value depth) (.string s) (.string s) := by
  intro gap text rest hgap htext
  cases htext with
  | @string _ body hbody =>
      have hscalar : Runs scalar (0x22 :: (body ++ 0x22 :: rest)) (.string s) rest := by
        refine (runs_token .nil rfl _).bind ?_
        refine (runs_advance 0x22 _).bind ?_
        exact (runs_stringRest hbody rest).bind (.pure _ _)
      rw [quotation_append]
      cases depth with
      | zero => exact (runs_token hgap rfl _).bind hscalar
      | succ depth => exact (runs_token hgap rfl _).bind hscalar

theorem accepts_value_array {depth : Nat} {vs : List Json}
    (h : ∀ v ∈ vs, Accepts (value depth) v v) :
    Accepts (value (depth + 1)) (.array vs) (.array vs) := by
  intro gap text rest hgap htext
  cases htext with
  | array hinner =>
      have hitems := runs_items (List.forall₂_same.mpr h) hinner rest
      refine (runs_token hgap rfl _).bind ?_
      refine (runs_advance 0x5B _).bind ?_
      exact Runs.closing (hitems.bind (.pure _ _)) (runs_endList rest)

/-- The entries of an object of any kind are collected in reverse order. -/
theorem acceptsEntries_collect {item : Reader Json} {entries : List (String × Json)}
    (h : ∀ e ∈ entries, Accepts item e.2 e.2) (done : List (String × Json)) :
    AcceptsEntries (fun done name => do colon; return (name, ← item) :: done) done entries
      (entries.reverse ++ done) := by
  induction entries generalizing done with
  | nil => exact .nil done
  | cons e entries ih =>
      obtain ⟨name, v⟩ := e
      have hv : Accepts (do return (name, ← item) :: done) v ((name, v) :: done) :=
        fun gap text rest hgap htext =>
          (h (name, v) List.mem_cons_self gap text rest hgap htext).bind (.pure _ _)
      have hrest := ih (fun e he => h e (List.mem_cons_of_mem _ he)) ((name, v) :: done)
      rw [List.reverse_cons, List.append_assoc]
      exact .cons hv.entry hrest

theorem accepts_value_object {depth : Nat} {entries : List (String × Json)}
    (h : ∀ e ∈ entries, Accepts (value depth) e.2 e.2) :
    Accepts (value (depth + 1)) (.object entries) (.object entries) := by
  intro gap text rest hgap htext
  cases htext with
  | object hinner =>
      have hentries := runs_foldEntries (acceptsEntries_collect h []) hinner rest
      refine (runs_token hgap rfl _).bind ?_
      refine (runs_advance 0x7B _).bind ?_
      refine Runs.closing (hentries.bind ?_) (runs_endObject rest)
      rw [List.append_nil, List.reverse_reverse]
      exact .pure _ _

theorem accepts_value_null (depth : Nat) : Accepts (value depth) .null .null := by
  intro gap text rest hgap htext
  cases htext
  have hscalar : Runs scalar (Text.bytes "null" ++ rest) .null rest := by
    refine (runs_token .nil rfl _).bind ?_
    refine (runs_advance 0x6E _).bind ?_
    exact (runs_letters rfl rest).bind (.pure _ rest)
  cases depth with
  | zero => exact (runs_token hgap rfl _).bind hscalar
  | succ depth => exact (runs_token hgap rfl _).bind hscalar

/-- Values made of strings and `null`, with at most `depth` brackets around each of them. -/
inductive Textual : Nat → Json → Prop
  | null (depth : Nat) : Textual depth .null
  | string (depth : Nat) (s : String) : Textual depth (.string s)
  | array {depth : Nat} {vs : List Json} :
      (∀ v ∈ vs, Textual depth v) → Textual (depth + 1) (.array vs)
  | object {depth : Nat} {entries : List (String × Json)} :
      (∀ e ∈ entries, Textual depth e.2) → Textual (depth + 1) (.object entries)

/-- Textual values are read as they are. -/
theorem accepts_value {depth : Nat} {v : Json} (h : Textual depth v) :
    Accepts (value depth) v v := by
  induction h with
  | null depth => exact accepts_value_null depth
  | string depth s => exact accepts_value_string depth s
  | array _ ih => exact accepts_value_array ih
  | object _ ih => exact accepts_value_object ih

/-! ### Documents -/

theorem runs_endDocument {gap : List UInt8} (hgap : Blank gap) : Runs endDocument gap () [] :=
  (runs_peekToken_end hgap).bind (.pure () [])

/-- A document is a spelling of its value between blanks. -/
theorem runs_document {body : Nat → Reader α} {v : Json} {a : α}
    (h : Accepts (body maxDepth) v a) {gap text gap' : List UInt8} (hgap : Blank gap)
    (htext : Spells v text) (hgap' : Blank gap') :
    Runs (document body) (gap ++ (text ++ gap')) a [] :=
  (h gap text gap' hgap htext).bind ((runs_endDocument hgap').bind (.pure a []))

end ClassDiagram.Json.Reader
