import ClassDiagram.Proofs.Json.Decoding
import Mathlib.Data.List.Perm.Basic

/-! # Objects that describe a record

Many objects describe the same record.  Their entries may stand in any order, an entry that says
nothing new may be left out, and entries that the record does not know may stand among them.  A
`FieldForm` says how one field is written: its key, the values that stand for its content, and
whether it may be left out.  `Describes forms v` says that the object `v` fills in the forms.

A record is read field by field into a draft.  What the draft knows depends only on the keys that
have been seen, not on their order: a *sketch* gives the draft for every set of keys.  If each entry
leads from one sketch to the next (`Follows`), then all entries of a description lead to a sketch
that misses only what may be left out (`exists_leads`).  So both readers of records, from the input
and from values that were read before, accept every description (`accepts_record_of_describes`,
`record_of_describes`). -/

namespace ClassDiagram.Json

variable {α β δ σ : Type}

/-! ### Forms -/

/-- How one field of a record is written. -/
structure FieldForm where
  name : String
  /-- The values that stand for the content of the field. -/
  Stands : Json → Prop
  /-- Whether the entry may be left out. -/
  Omissible : Prop

namespace FieldForm

/-- A string, which must not be missing. -/
def text (name s : String) : FieldForm := ⟨name, (· = .string s), False⟩

/-- One of several words, which may be left out in place of the usual one. -/
def word (name : String) (Means : String → Prop) (usual : Prop) : FieldForm :=
  ⟨name, fun v => ∃ w, Means w ∧ v = .string w, usual⟩

/-- A value that may be absent; then the entry is `null` or left out. -/
def optional (name : String) (Stands : Json → α → Prop) (o : Option α) : FieldForm :=
  ⟨name, fun v => (o = none ∧ v = .null) ∨ ∃ a, o = some a ∧ Stands v a, o = none⟩

/-- A list, which may be left out if it is empty. -/
def list (name : String) (Stands : Json → α → Prop) (as : List α) : FieldForm :=
  ⟨name, fun v => ∃ vs, List.Forall₂ Stands vs as ∧ v = .array vs, as = []⟩

end FieldForm

/-- The entries fill in the forms one after the other, except for some that may be left out. -/
inductive FillsIn : List FieldForm → List (String × Json) → Prop
  | nil : FillsIn [] []
  | write {form : FieldForm} {forms : List FieldForm} {v : Json} {entries : List (String × Json)} :
      form.Stands v → FillsIn forms entries →
      FillsIn (form :: forms) ((form.name, v) :: entries)
  | skip {form : FieldForm} {forms : List FieldForm} {entries : List (String × Json)} :
      form.Omissible → FillsIn forms entries → FillsIn (form :: forms) entries

/-- The entries have keys that no form has, and hold strings. -/
def Extra (forms : List FieldForm) (entries : List (String × Json)) : Prop :=
  ∀ e ∈ entries, (∀ form ∈ forms, form.name ≠ e.1) ∧ ∃ s, e.2 = .string s

/-- The object fills in the forms, with its entries in any order and others among them. -/
inductive Describes (forms : List FieldForm) : Json → Prop
  | object {written extra entries : List (String × Json)} :
      FillsIn forms written → Extra forms extra → entries.Perm (written ++ extra) →
      Describes forms (.object entries)

/-! ### Entries of a description -/

theorem Describes.exists_object {forms : List FieldForm} {v : Json} (h : Describes forms v) :
    ∃ entries, v = .object entries := by
  cases h
  exact ⟨_, rfl⟩

theorem Describes.ne_null {forms : List FieldForm} {v : Json} (h : Describes forms v) :
    v ≠ .null := by
  obtain ⟨entries, rfl⟩ := h.exists_object
  simp

theorem FillsIn.exists_form {forms : List FieldForm} {entries : List (String × Json)}
    (h : FillsIn forms entries) :
    ∀ e ∈ entries, ∃ form ∈ forms, form.name = e.1 ∧ form.Stands e.2 := by
  induction h with
  | nil => exact fun _ he => nomatch he
  | write hv _ ih =>
      intro e he
      rcases List.mem_cons.mp he with rfl | he
      · exact ⟨_, List.mem_cons_self, rfl, hv⟩
      · obtain ⟨form, hform, h⟩ := ih e he
        exact ⟨form, List.mem_cons_of_mem _ hform, h⟩
  | skip _ _ ih =>
      intro e he
      obtain ⟨form, hform, h⟩ := ih e he
      exact ⟨form, List.mem_cons_of_mem _ hform, h⟩

theorem FillsIn.keys_sublist {forms : List FieldForm} {entries : List (String × Json)}
    (h : FillsIn forms entries) : (entries.map Prod.fst).Sublist (forms.map FieldForm.name) := by
  induction h with
  | nil => exact .slnil
  | write _ _ ih => exact ih.cons_cons _
  | skip _ _ ih => exact ih.cons _

/-- A form without an entry may be left out. -/
theorem FillsIn.omissible {forms : List FieldForm} {entries : List (String × Json)}
    (h : FillsIn forms entries) :
    ∀ form ∈ forms, (∃ e ∈ entries, e.1 = form.name) ∨ form.Omissible := by
  induction h with
  | nil => exact fun _ hform => nomatch hform
  | write _ _ ih =>
      intro form hform
      rcases List.mem_cons.mp hform with rfl | hform
      · exact .inl ⟨_, List.mem_cons_self, rfl⟩
      · exact (ih form hform).imp_left fun ⟨e, he, h⟩ => ⟨e, List.mem_cons_of_mem _ he, h⟩
  | skip homit _ ih =>
      intro form hform
      rcases List.mem_cons.mp hform with rfl | hform
      · exact .inr homit
      · exact ih form hform

/-- What matters of the entries of a description: each belongs to a form or to none, and no two of
them belong to the same form. -/
structure WellKeyed (forms : List FieldForm) (entries : List (String × Json)) : Prop where
  known : ∀ e ∈ entries, (∃ form ∈ forms, form.name = e.1 ∧ form.Stands e.2) ∨
    (∀ form ∈ forms, form.name ≠ e.1) ∧ ∃ s, e.2 = .string s
  once : entries.Pairwise fun e e' => e.1 = e'.1 → ∀ form ∈ forms, form.name ≠ e.1

theorem WellKeyed.of_perm {forms : List FieldForm} {entries written extra : List (String × Json)}
    (hnames : (forms.map FieldForm.name).Nodup) (hwritten : FillsIn forms written)
    (hextra : Extra forms extra) (hperm : entries.Perm (written ++ extra)) :
    WellKeyed forms entries where
  known e he := by
    rcases List.mem_append.mp (hperm.mem_iff.mp he) with he | he
    · exact .inl (hwritten.exists_form e he)
    · exact .inr (hextra e he)
  once := by
    have hsymm : ∀ {e e' : String × Json}, (e.1 = e'.1 → ∀ form ∈ forms, form.name ≠ e.1) →
        e'.1 = e.1 → ∀ form ∈ forms, form.name ≠ e'.1 := fun h heq => heq ▸ h heq.symm
    rw [hperm.pairwise_iff hsymm, List.pairwise_append]
    have hkeys := List.pairwise_map.mp (hnames.sublist hwritten.keys_sublist)
    refine ⟨hkeys.imp fun hne heq => absurd heq hne, ?_, ?_⟩
    · exact (List.pairwise_of_forall fun _ _ => trivial).imp_of_mem
        fun he _ _ _ => (hextra _ he).1
    · intro e he e' he' heq
      rw [heq]
      exact (hextra e' he').1

/-- A string that must not be missing stands somewhere among the entries; without it they fill in
the other forms. -/
theorem Describes.exists_text {forms : List FieldForm} {name s : String}
    {entries : List (String × Json)} (hname : ∀ form ∈ forms, form.name ≠ name)
    (h : Describes (.text name s :: forms) (.object entries)) :
    ∃ before after, entries = before ++ (name, .string s) :: after ∧
      (∀ e ∈ before ++ after, e.1 ≠ name) ∧ Describes forms (.object (before ++ after)) := by
  cases h with
  | @object written extra _ hwritten hextra hperm =>
      cases hwritten with
      | skip homit _ => exact homit.elim
      | @write _ _ v written hv hwritten =>
          obtain rfl : v = .string s := hv
          obtain ⟨before, after, rfl⟩ :=
            List.append_of_mem (hperm.mem_iff.mpr List.mem_cons_self)
          have hrest : (before ++ after).Perm (written ++ extra) :=
            (List.perm_middle.symm.trans hperm).cons_inv
          refine ⟨before, after, rfl, fun e he => ?_, .object hwritten ?_ hrest⟩
          · rcases List.mem_append.mp (hrest.mem_iff.mp he) with he | he
            · obtain ⟨form, hform, heq, -⟩ := hwritten.exists_form e he
              exact heq ▸ hname form hform
            · exact ((hextra e he).1 _ List.mem_cons_self).symm
          · exact fun e he => (hextra e he).imp_left fun h => (List.forall_mem_cons.mp h).2

/-- A description is textual if the values of its forms are. -/
theorem Describes.textual {forms : List FieldForm} {v : Json} {depth : Nat}
    (hforms : ∀ form ∈ forms, ∀ v, form.Stands v → Reader.Textual depth v)
    (h : Describes forms v) : Reader.Textual (depth + 1) v := by
  cases h with
  | object hwritten hextra hperm =>
      refine .object fun e he => ?_
      rcases List.mem_append.mp (hperm.mem_iff.mp he) with he | he
      · obtain ⟨form, hform, -, hv⟩ := hwritten.exists_form e he
        exact hforms form hform e.2 hv
      · obtain ⟨s, hs⟩ := (hextra e he).2
        exact hs ▸ .string depth s

section textual
open Reader (Textual)
variable {Stands : Json → α → Prop} {name : String} {v : Json} {depth : Nat}

theorem textual_word {Means : String → Prop} {usual : Prop}
    (hv : (FieldForm.word name Means usual).Stands v) : Textual depth v := by
  obtain ⟨word, -, rfl⟩ := hv
  exact .string depth word

theorem textual_optional {o : Option α} (h : ∀ v a, Stands v a → Textual depth v)
    (hv : (FieldForm.optional name Stands o).Stands v) : Textual depth v := by
  rcases hv with ⟨-, rfl⟩ | ⟨a, -, ha⟩
  · exact .null depth
  · exact h v a ha

theorem textual_list {as : List α} (h : ∀ v a, Stands v a → Textual depth v)
    (hv : (FieldForm.list name Stands as).Stands v) : Textual (depth + 1) v := by
  obtain ⟨vs, hvs, rfl⟩ := hv
  refine .array fun v hmem => ?_
  obtain ⟨i, hi, rfl⟩ := List.mem_iff_getElem.mp hmem
  exact h _ _ (hvs.get hi (hvs.length_eq ▸ hi))

end textual

/-! ### Sketches of drafts -/

/-- What a draft knows of a field whose key has been seen or not. -/
def known (seen : Bool) (content : α) : Option α := if seen then some content else none

theorem known_eq_none {seen : Bool} (h : seen = false) (content : α) :
    known seen content = none := by
  rw [h]
  rfl

theorem present_known {seen : Bool} (h : seen = false → False) (name : String) (content : α) :
    present name (known seen content) = .ok content := by
  cases seen with
  | true => rfl
  | false => exact (h rfl).elim

theorem getD_known {seen : Bool} {content default : α}
    (h : seen = false → content = default) : (known seen content).getD default = content := by
  cases seen with
  | true => rfl
  | false => exact (h rfl).symm

/-- The keys that have been seen, with one more. -/
def see (name : String) (seen : String → Bool) : String → Bool := fun n => n == name || seen n

/-- Each entry leads from the sketch of the keys seen before to that of the keys seen after it; one
that belongs to no form changes nothing. -/
structure Follows (step : σ → String → Json → σ → Prop) (forms : List FieldForm)
    (sketch : (String → Bool) → σ) : Prop where
  form : ∀ form ∈ forms, ∀ seen v, seen form.name = false → form.Stands v →
    step (sketch seen) form.name v (sketch (see form.name seen))
  extra : ∀ name s seen, (∀ form ∈ forms, form.name ≠ name) →
    step (sketch seen) name (.string s) (sketch seen)

/-- Entries of different forms lead to a sketch in which all their keys have been seen. -/
theorem Follows.leads {step : σ → String → Json → σ → Prop} {forms : List FieldForm}
    {sketch : (String → Bool) → σ} (h : Follows step forms sketch)
    {entries : List (String × Json)} (hkeyed : WellKeyed forms entries) :
    ∀ seen : String → Bool,
      (∀ e ∈ entries, ∀ form ∈ forms, form.name = e.1 → seen form.name = false) →
      ∃ seen', Leads step (sketch seen) entries (sketch seen') ∧
        (∀ name, seen name = true → seen' name = true) ∧
        ∀ e ∈ entries, ∀ form ∈ forms, form.name = e.1 → seen' form.name = true := by
  induction entries with
  | nil => exact fun seen _ => ⟨seen, .nil _, fun _ hseen => hseen, fun _ he => nomatch he⟩
  | cons e entries ih =>
      intro seen hfresh
      obtain ⟨hfirst, hrest⟩ := List.forall_mem_cons.mp hfresh
      obtain ⟨hknown, hknown'⟩ := List.forall_mem_cons.mp hkeyed.known
      obtain ⟨honce, honce'⟩ := List.pairwise_cons.mp hkeyed.once
      obtain ⟨name, v⟩ := e
      rcases hknown with ⟨form, hform, rfl, hv⟩ | ⟨hnone, s, hs⟩
      · -- the key of this entry is that of no later one, so the later ones are still unseen
        have hrest' : ∀ e ∈ entries, ∀ form' ∈ forms, form'.name = e.1 →
            see form.name seen form'.name = false := by
          intro e he form' hform' heq
          have hne : form'.name ≠ form.name := fun hname =>
            honce e he (hname.symm.trans heq) form hform rfl
          simp [see, hne, hrest e he form' hform' heq]
        obtain ⟨seen', hleads, hkept, hseen⟩ := ih ⟨hknown', honce'⟩ _ hrest'
        have hself : seen' form.name = true := hkept form.name (by simp [see])
        refine ⟨seen', .cons (h.form form hform seen v (hfirst form hform rfl) hv) hleads, ?_, ?_⟩
        · exact fun name hname => hkept name (by simp [see, hname])
        · refine List.forall_mem_cons.mpr ⟨fun form' _ heq => ?_, hseen⟩
          rw [heq]
          exact hself
      · obtain ⟨seen', hleads, hkept, hseen⟩ := ih ⟨hknown', honce'⟩ seen hrest
        obtain rfl : v = .string s := hs
        refine ⟨seen', .cons (h.extra name s seen hnone) hleads, hkept, ?_⟩
        exact List.forall_mem_cons.mpr ⟨fun form hform heq => absurd heq (hnone form hform), hseen⟩

/-- The entries of a description lead to a sketch that misses only what may be left out. -/
theorem Follows.exists_leads {step : σ → String → Json → σ → Prop} {forms : List FieldForm}
    {sketch : (String → Bool) → σ} (h : Follows step forms sketch)
    (hnames : (forms.map FieldForm.name).Nodup) {written extra entries : List (String × Json)}
    (hwritten : FillsIn forms written) (hextra : Extra forms extra)
    (hperm : entries.Perm (written ++ extra)) :
    ∃ seen, Leads step (sketch fun _ => false) entries (sketch seen) ∧
      ∀ form ∈ forms, seen form.name = false → form.Omissible := by
  obtain ⟨seen, hleads, -, hseen⟩ :=
    h.leads (.of_perm hnames hwritten hextra hperm) (fun _ => false) fun _ _ _ _ _ => rfl
  refine ⟨seen, hleads, fun form hform hunseen => ?_⟩
  rcases hwritten.omissible form hform with ⟨e, he, heq⟩ | homit
  · have hmem := hperm.mem_iff.mpr (List.mem_append_left extra he)
    rw [hseen e hmem form hform heq.symm] at hunseen
    cases hunseen
  · exact homit

/-- A key that no form has belongs to no slot. -/
theorem Record.slot?_eq_none.{u} {m : Type → Type u} {r : Record m δ α} {forms : List FieldForm}
    {names : List String} (hslots : r.slots.map Slot.name = names)
    (hforms : forms.map FieldForm.name = names) {name : String}
    (h : ∀ form ∈ forms, form.name ≠ name) : r.slot? name = none := by
  refine List.find?_eq_none.mpr fun slot hslot heq => ?_
  have hmem : slot.name ∈ forms.map FieldForm.name := by
    rw [hforms, ← hslots]
    exact List.mem_map_of_mem hslot
  obtain ⟨form, hform, hname⟩ := List.mem_map.mp hmem
  exact h form hform (hname.trans (beq_iff_eq.mp heq))

/-! ### Records from values -/

namespace Decoder

/-- The entry is taken into the draft, whatever comes after it. -/
def Takes (r : Record Decoder δ α) (draft : δ) (name : String) (v : Json) (draft' : δ) : Prop :=
  ∀ entries, recordEntries r ((name, v) :: entries) draft = recordEntries r entries draft'

theorem takes_field {r : Record Decoder δ α} {name : String} {required : Bool}
    {get : δ → Option β} {put : δ → β → δ} {take : Decoder β} {draft draft' : δ} {v : Json} {b : β}
    (hslot : r.slot? name = some (.of name required get put take)) (hfree : get draft = none)
    (h : take v = .ok b) (hput : put draft b = draft') : Takes r draft name v draft' := by
  intro entries
  have hfilled : (Slot.of name required get put take).filled draft = false := by
    show (get draft).isSome = false
    rw [hfree]
    rfl
  simp only [recordEntries, hslot, hfilled, fill_of h, hput]
  rfl

theorem takes_extra {r : Record Decoder δ α} {name : String} (hslot : r.slot? name = none)
    (draft : δ) (v : Json) : Takes r draft name v draft := by
  intro entries
  simp only [recordEntries, hslot]

theorem recordEntries_of_takes {r : Record Decoder δ α} {draft draft' : δ}
    {entries : List (String × Json)} (h : Leads (Takes r) draft entries draft') :
    recordEntries r entries draft = .ok draft' := by
  induction h with
  | nil draft => rfl
  | cons he _ ih => rw [he, ih]

/-- A record is taken from every object that describes it. -/
theorem record_of_describes {r : Record Decoder δ α} {forms : List FieldForm}
    (sketch : (String → Bool) → δ) (names : List String) {a : α} {v : Json}
    (hslots : r.slots.map Slot.name = names) (hforms : forms.map FieldForm.name = names)
    (hnames : names.Nodup) (hblank : r.blank = sketch fun _ => false)
    (htakes : ∀ form ∈ forms, ∀ seen v, seen form.name = false → form.Stands v →
      Takes r (sketch seen) form.name v (sketch (see form.name seen)))
    (hfinish : ∀ seen, (∀ form ∈ forms, seen form.name = false → form.Omissible) →
      r.finish (sketch seen) = .ok a)
    (hv : Describes forms v) : record r v = .ok a := by
  have hfollows : Follows (Takes r) forms sketch :=
    ⟨htakes, fun _ s seen hnone => takes_extra (r.slot?_eq_none hslots hforms hnone) _ (.string s)⟩
  cases hv with
  | object hwritten hextra hperm =>
      obtain ⟨seen, hleads, hmissing⟩ :=
        hfollows.exists_leads (hforms ▸ hnames) hwritten hextra hperm
      simp only [record, hblank, recordEntries_of_takes hleads]
      exact hfinish seen hmissing

end Decoder

/-! ### Records from the input -/

/-- A record is read from every spelling of every object that describes it. -/
theorem Reader.accepts_record_of_describes {depth : Nat} (r : Nat → Record Reader δ α)
    {forms : List FieldForm} (sketch : (String → Bool) → δ) (names : List String) {a : α}
    {v : Json} (hslots : (r depth).slots.map Slot.name = names)
    (hforms : forms.map FieldForm.name = names) (hnames : names.Nodup)
    (hblank : (r depth).blank = sketch fun _ => false)
    (haccepts : ∀ form ∈ forms, ∀ seen v, seen form.name = false → form.Stands v →
      AcceptsEntry (recordEntry (r depth) (sketch seen) form.name) v
        (sketch (see form.name seen)))
    (hfinish : ∀ seen, (∀ form ∈ forms, seen form.name = false → form.Omissible) →
      (r depth).finish (sketch seen) = .ok a)
    (hv : Describes forms v) : Accepts (record (depth + 1) r) v a := by
  have hfollows : Follows (fun s name v s' => AcceptsEntry (recordEntry (r depth) s name) v s')
      forms sketch :=
    ⟨haccepts, fun _ s seen hnone =>
      acceptsEntry_extra (Record.slot?_eq_none hslots hforms hnone) _ s⟩
  cases hv with
  | object hwritten hextra hperm =>
      obtain ⟨seen, hleads, hmissing⟩ :=
        hfollows.exists_leads (hforms ▸ hnames) hwritten hextra hperm
      exact accepts_record r (sketch seen) (hblank ▸ hleads) (hfinish seen hmissing)

end ClassDiagram.Json
