import ClassDiagram.Proofs.Json.Description
import ClassDiagram.Proofs.Symbol.GraphRuns

/-! # Documents that describe declarations

The forms in which declarations are written: what the entries of each kind of object are, which
values stand for their contents, and which of them may be left out.  Words that mean nothing stand
for the levels and kinds that have no word of their own.

Every object that fills in the forms is read as the declaration that it describes, in every spelling
(`accepts_described_member`, `accepts_described_type`, `accepts_described_document`), although
members are taken from values that were read before, and all else straight from the input.  Hence a
graph is loaded from every text that writes its declarations (`ofText_of_writes`). -/

namespace ClassDiagram

open Json Json.Reader

variable {α : Type}

/-! ### Words -/

/-- The word stands for the value: it is its name, or the value is the one for all words that name
nothing. -/
def WordFor [Vocabulary α] (named : List α) (fallback a : α) (word : String) : Prop :=
  (a ∈ named ∧ word = Vocabulary.name a) ∨ (a = fallback ∧ ∀ b ∈ named, Vocabulary.name b ≠ word)

theorem ofName_of_wordFor [Vocabulary α] {named : List α} {fallback a : α} {word : String}
    (hofName : ∀ word, Vocabulary.ofName word =
      .ok ((named.find? (Vocabulary.name · == word)).getD fallback))
    (hname : Vocabulary.ofName (Vocabulary.name a) = .ok a) (h : WordFor named fallback a word) :
    Vocabulary.ofName word = .ok a := by
  rcases h with ⟨-, rfl⟩ | ⟨rfl, hnone⟩
  · exact hname
  · have hfind : named.find? (Vocabulary.name · == word) = none := by
      refine List.find?_eq_none.mpr fun b hb heq => ?_
      exact hnone b hb (beq_iff_eq.mp heq)
    rw [hofName, hfind]
    rfl

/-- The words for a level. -/
def Visibility.Word (v : Visibility) : String → Prop := WordFor Visibility.named .unknown v

/-- The words for a kind of type. -/
def TypeKind.Word (k : TypeKind) : String → Prop := WordFor TypeKind.named .unknown k

/-- The words for a kind of method. -/
def MethodKind.Word (k : MethodKind) : String → Prop := WordFor MethodKind.named .other k

theorem Visibility.Word.ofName {v : Visibility} {word : String} (h : v.Word word) :
    Vocabulary.ofName word = .ok v :=
  ofName_of_wordFor (fun _ => rfl) (ofName_visibility v) h

theorem TypeKind.Word.ofName {k : TypeKind} {word : String} (h : k.Word word) :
    Vocabulary.ofName word = .ok k :=
  ofName_of_wordFor (fun _ => rfl) (ofName_typeKind k) h

theorem MethodKind.Word.ofName {k : MethodKind} {word : String} (h : k.Word word) :
    Vocabulary.ofName word = .ok k :=
  ofName_of_wordFor (fun _ => rfl) (ofName_methodKind k) h

/-! ### Forms -/

/-- The value is a string. -/
def IsText (v : Json) (s : String) : Prop := v = .string s

/-- The entry for a level; the public one may be left out. -/
def Visibility.form (v : Visibility) : FieldForm := .word "visibility" v.Word (v = .pub)

/-- The forms of a parameter. -/
def Parameter.forms (p : Parameter) : List FieldForm := [.text "type" p.type, .text "name" p.name]

/-- The form of an accessor. -/
def Accessor.forms (a : Accessor) : List FieldForm := [a.visibility.form]

/-- The forms of a field. -/
def Field.forms (f : Field) : List FieldForm :=
  [.text "name" f.name, f.visibility.form, .text "type" f.type]

/-- The forms of a method. -/
def Method.forms (m : Method) : List FieldForm :=
  [.text "name" m.name, m.visibility.form, .word "method_kind" m.kind.Word (m.kind = .ordinary),
    .optional "return_type" IsText m.returns,
    .list "parameters" (fun v p => Describes p.forms v) m.parameters]

/-- The forms of a property. -/
def Property.forms (p : Property) : List FieldForm :=
  [.text "name" p.name, p.visibility.form, .text "type" p.type,
    .optional "getter" (fun v a => Describes a.forms v) p.getter,
    .optional "setter" (fun v a => Describes a.forms v) p.setter]

/-- What a member says that it is. -/
def Member.tag : Member → MemberTag
  | .field _ => .field
  | .method _ => .method
  | .property _ => .property

/-- The forms of a member besides its tag. -/
def Member.fieldForms : Member → List FieldForm
  | .field f => f.forms
  | .method m => m.forms
  | .property p => p.forms

/-- The forms of a member; its tag is one of them. -/
def Member.forms (m : Member) : List FieldForm := .text "kind" m.tag.name :: m.fieldForms

/-- The forms of a type. -/
def TypeDecl.forms (t : TypeDecl) : List FieldForm :=
  [.text "name" t.name, .word "kind" t.kind.Word (t.kind = .classType),
    ⟨"abstract", (· = .bool t.isAbstract), t.isAbstract = false⟩, t.visibility.form,
    .list "members" (fun v m => Describes m.forms v) t.members, .optional "base" IsText t.base,
    .list "interfaces" IsText t.interfaces, .list "enum_members" IsText t.enumMembers]

/-- The form of a document. -/
def documentForms (types : List TypeDecl) : List FieldForm :=
  [.list "types" (fun v t => Describes t.forms v) types]

/-! ### Members from values -/

section decoding
open Decoder

theorem decode_word [Vocabulary α] {Means : String → Prop} {a : α} {v : Json}
    (hmeans : ∀ word, Means word → Vocabulary.ofName word = .ok a)
    (hv : ∃ word, Means word ∧ v = .string word) : Decoder.word true v = .ok a := by
  obtain ⟨word, hword, rfl⟩ := hv
  exact word_string (hmeans word hword) true

theorem decode_optional {Stands : Json → α → Prop} {item : Decoder α} {name : String}
    {o : Option α} {v : Json} (hitem : ∀ v a, Stands v a → v ≠ .null ∧ item v = .ok a)
    (hv : (FieldForm.optional name Stands o).Stands v) : Decoder.optional item v = .ok o := by
  rcases hv with ⟨rfl, rfl⟩ | ⟨a, rfl, ha⟩
  · rfl
  · exact optional_some (hitem v a ha).1 (hitem v a ha).2

theorem decode_list {Stands : Json → α → Prop} {item : Decoder α} {name : String} {as : List α}
    {v : Json} (hitem : ∀ v a, Stands v a → item v = .ok a)
    (hv : (FieldForm.list name Stands as).Stands v) : Decoder.list item v = .ok as := by
  obtain ⟨vs, hvs, rfl⟩ := hv
  show eachItem item vs = .ok as
  induction hvs with
  | nil => rfl
  | cons ha _ ih =>
      simp only [eachItem, hitem _ _ ha, ih]
      rfl

/-- What is known of a parameter when some of its keys have been seen. -/
def Parameter.sketch (p : Parameter) (seen : String → Bool) : ParameterDraft :=
  ⟨known (seen "type") p.type, known (seen "name") p.name⟩

theorem decode_described_parameter {v : Json} {p : Parameter} (hv : Describes p.forms v) :
    record Parameter.record v = .ok p := by
  refine record_of_describes p.sketch ["type", "name"] rfl rfl (by decide) rfl ?_ ?_ hv
  · simp only [Parameter.forms, List.forall_mem_cons]
    refine ⟨?_, ?_, fun _ h => nomatch h⟩
    · rintro seen v hseen rfl
      exact takes_field rfl (known_eq_none hseen _) rfl rfl
    · rintro seen v hseen rfl
      exact takes_field rfl (known_eq_none hseen _) rfl rfl
  · intro seen hmissing
    simp only [Parameter.forms, FieldForm.text, List.forall_mem_cons] at hmissing
    obtain ⟨htype, hname, -⟩ := hmissing
    simp only [Parameter.record, Parameter.sketch, present_known htype, present_known hname]
    rfl

/-- What is known of an accessor when some of its keys have been seen. -/
def Accessor.sketch (a : Accessor) (seen : String → Bool) : AccessorDraft :=
  ⟨known (seen "visibility") a.visibility⟩

theorem decode_described_accessor {v : Json} {a : Accessor} (hv : Describes a.forms v) :
    record Accessor.record v = .ok a := by
  refine record_of_describes a.sketch ["visibility"] rfl rfl (by decide) rfl ?_ ?_ hv
  · simp only [Accessor.forms, List.forall_mem_cons]
    refine ⟨fun seen v hseen hv => ?_, fun _ h => nomatch h⟩
    exact takes_field rfl (known_eq_none hseen _) (decode_word (fun _ h => h.ofName) hv) rfl
  · intro seen hmissing
    simp only [Accessor.forms, Visibility.form, FieldForm.word, List.forall_mem_cons] at hmissing
    simp only [Accessor.record, Accessor.sketch, getD_known hmissing.1]
    rfl

/-- What is known of a field when some of its keys have been seen. -/
def Field.sketch (f : Field) (seen : String → Bool) : FieldDraft :=
  ⟨known (seen "name") f.name, known (seen "visibility") f.visibility, known (seen "type") f.type⟩

theorem decode_described_field {v : Json} {f : Field} (hv : Describes f.forms v) :
    record Field.record v = .ok f := by
  refine record_of_describes f.sketch ["name", "visibility", "type"] rfl rfl (by decide) rfl ?_ ?_
    hv
  · simp only [Field.forms, List.forall_mem_cons]
    refine ⟨?_, ?_, ?_, fun _ h => nomatch h⟩
    · rintro seen v hseen rfl
      exact takes_field rfl (known_eq_none hseen _) rfl rfl
    · intro seen v hseen hv
      exact takes_field rfl (known_eq_none hseen _) (decode_word (fun _ h => h.ofName) hv) rfl
    · rintro seen v hseen rfl
      exact takes_field rfl (known_eq_none hseen _) rfl rfl
  · intro seen hmissing
    simp only [Field.forms, Visibility.form, FieldForm.text, FieldForm.word,
      List.forall_mem_cons] at hmissing
    obtain ⟨hname, hvisibility, htype, -⟩ := hmissing
    simp only [Field.record, Field.sketch, present_known hname, getD_known hvisibility,
      present_known htype]
    rfl

/-- What is known of a method when some of its keys have been seen. -/
def Method.sketch (m : Method) (seen : String → Bool) : MethodDraft :=
  ⟨known (seen "name") m.name, known (seen "visibility") m.visibility,
    known (seen "method_kind") m.kind, known (seen "return_type") m.returns,
    known (seen "parameters") m.parameters⟩

theorem decode_described_method {v : Json} {m : Method} (hv : Describes m.forms v) :
    record Method.record v = .ok m := by
  refine record_of_describes m.sketch
    ["name", "visibility", "method_kind", "return_type", "parameters"] rfl rfl (by decide) rfl ?_ ?_
    hv
  · simp only [Method.forms, List.forall_mem_cons]
    refine ⟨?_, ?_, ?_, ?_, ?_, fun _ h => nomatch h⟩
    · rintro seen v hseen rfl
      exact takes_field rfl (known_eq_none hseen _) rfl rfl
    · intro seen v hseen hv
      exact takes_field rfl (known_eq_none hseen _) (decode_word (fun _ h => h.ofName) hv) rfl
    · intro seen v hseen hv
      exact takes_field rfl (known_eq_none hseen _) (decode_word (fun _ h => h.ofName) hv) rfl
    · intro seen v hseen hv
      refine takes_field rfl (known_eq_none hseen _) (decode_optional ?_ hv) rfl
      rintro _ t rfl
      exact ⟨by simp, rfl⟩
    · intro seen v hseen hv
      exact takes_field rfl (known_eq_none hseen _)
        (decode_list (fun _ _ hp => decode_described_parameter hp) hv) rfl
  · intro seen hmissing
    simp only [Method.forms, Visibility.form, FieldForm.text, FieldForm.word, FieldForm.optional,
      FieldForm.list, List.forall_mem_cons] at hmissing
    obtain ⟨hname, hvisibility, hkind, hreturns, hparameters, -⟩ := hmissing
    simp only [Method.record, Method.sketch, present_known hname, getD_known hvisibility,
      getD_known hkind, getD_known hreturns, getD_known hparameters]
    rfl

/-- What is known of a property when some of its keys have been seen. -/
def Property.sketch (p : Property) (seen : String → Bool) : PropertyDraft :=
  ⟨known (seen "name") p.name, known (seen "visibility") p.visibility, known (seen "type") p.type,
    known (seen "getter") p.getter, known (seen "setter") p.setter⟩

theorem decode_described_property {v : Json} {p : Property} (hv : Describes p.forms v) :
    record Property.record v = .ok p := by
  refine record_of_describes p.sketch ["name", "visibility", "type", "getter", "setter"] rfl rfl
    (by decide) rfl ?_ ?_ hv
  · simp only [Property.forms, List.forall_mem_cons]
    refine ⟨?_, ?_, ?_, ?_, ?_, fun _ h => nomatch h⟩
    · rintro seen v hseen rfl
      exact takes_field rfl (known_eq_none hseen _) rfl rfl
    · intro seen v hseen hv
      exact takes_field rfl (known_eq_none hseen _) (decode_word (fun _ h => h.ofName) hv) rfl
    · rintro seen v hseen rfl
      exact takes_field rfl (known_eq_none hseen _) rfl rfl
    · intro seen v hseen hv
      refine takes_field rfl (known_eq_none hseen _) (decode_optional ?_ hv) rfl
      exact fun _ _ ha => ⟨ha.ne_null, decode_described_accessor ha⟩
    · intro seen v hseen hv
      refine takes_field rfl (known_eq_none hseen _) (decode_optional ?_ hv) rfl
      exact fun _ _ ha => ⟨ha.ne_null, decode_described_accessor ha⟩
  · intro seen hmissing
    simp only [Property.forms, Visibility.form, FieldForm.text, FieldForm.word,
      FieldForm.optional, List.forall_mem_cons] at hmissing
    obtain ⟨hname, hvisibility, htype, hgetter, hsetter, -⟩ := hmissing
    simp only [Property.record, Property.sketch, present_known hname, getD_known hvisibility,
      present_known htype, getD_known hgetter, getD_known hsetter]
    rfl

/-- A member is taken from every object that describes it besides its tag. -/
theorem Member.decode_described {v : Json} {m : Member} (hv : Describes m.fieldForms v) :
    Member.decode m.tag v = .ok m := by
  cases m with
  | field f => exact congrArg (Except.map Member.field) (decode_described_field hv)
  | method m => exact congrArg (Except.map Member.method) (decode_described_method hv)
  | property p => exact congrArg (Except.map Member.property) (decode_described_property hv)

end decoding

/-! ### Members from the input -/

theorem Parameter.textual_forms (p : Parameter) (depth : Nat) :
    ∀ form ∈ p.forms, ∀ v, form.Stands v → Textual depth v := by
  simp only [Parameter.forms, List.forall_mem_cons]
  refine ⟨?_, ?_, fun _ h => nomatch h⟩
  · rintro v rfl
    exact .string depth _
  · rintro v rfl
    exact .string depth _

theorem Accessor.textual_forms (a : Accessor) (depth : Nat) :
    ∀ form ∈ a.forms, ∀ v, form.Stands v → Textual depth v := by
  simp only [Accessor.forms, List.forall_mem_cons]
  exact ⟨fun _ => textual_word, fun _ h => nomatch h⟩

/-- The values in a member are textual, so they are read as they are. -/
theorem Member.textual_forms (m : Member) (depth : Nat) :
    ∀ form ∈ m.fieldForms, ∀ v, form.Stands v → Textual (depth + 2) v := by
  have hstring : ∀ (s : String) v, v = Json.string s → Textual (depth + 2) v := by
    rintro s v rfl
    exact .string _ s
  cases m with
  | field f =>
      simp only [Member.fieldForms, Field.forms, List.forall_mem_cons]
      exact ⟨hstring _, fun _ => textual_word, hstring _, fun _ h => nomatch h⟩
  | method m =>
      simp only [Member.fieldForms, Method.forms, List.forall_mem_cons]
      refine ⟨hstring _, fun _ => textual_word, fun _ => textual_word, fun _ => ?_, fun _ => ?_,
        fun _ h => nomatch h⟩
      · exact textual_optional fun v s => hstring s v
      · exact textual_list fun v p hv => hv.textual (p.textual_forms depth)
  | property p =>
      have haccessor : ∀ v (a : Accessor), Describes a.forms v → Textual (depth + 2) v :=
        fun v a hv => hv.textual (a.textual_forms (depth + 1))
      simp only [Member.fieldForms, Property.forms, List.forall_mem_cons]
      exact ⟨hstring _, fun _ => textual_word, hstring _, fun _ => textual_optional haccessor,
        fun _ => textual_optional haccessor, fun _ h => nomatch h⟩

theorem Member.name_ne_kind (m : Member) : ∀ form ∈ m.fieldForms, form.name ≠ "kind" := by
  cases m <;> simp [Member.fieldForms, Field.forms, Method.forms, Property.forms,
    Visibility.form, FieldForm.text, FieldForm.word, FieldForm.optional, FieldForm.list]

/-- The tag of a member is found wherever it stands, and the other entries are kept in order. -/
theorem accepts_readTagged_anywhere {depth : Nat} (tag : MemberTag)
    {before after : List (String × Json)}
    (h : ∀ e ∈ before ++ after, e.1 ≠ "kind" ∧ Accepts (value depth) e.2 e.2) :
    Accepts (Member.readTagged (depth + 1))
      (.object (before ++ ("kind", .string tag.name) :: after))
      (tag, .object (before ++ after)) := by
  rw [List.forall_mem_append] at h
  have htag : Accepts (do return { tag := some (← identifier), entries := before.reverse ++ [] })
      (.string tag.name) (MemberDraft.mk (some tag) (before.reverse ++ [])) :=
    fun gap text rest hgap htext =>
      (accepts_identifier (ofName_memberTag tag) gap text rest hgap htext).bind (.pure _ _)
  have hentries : AcceptsEntries (MemberDraft.entry depth) {}
      (before ++ ("kind", .string tag.name) :: after)
      ⟨some tag, after.reverse ++ (before.reverse ++ [])⟩ :=
    (acceptsEntries_memberDraft h.1 []).append
      (.cons htag.entry (acceptsEntries_memberDraft h.2 _))
  intro gap text rest hgap htext
  cases htext with
  | object hinner =>
      refine Runs.placing ((runs_token hgap rfl _).bind ?_)
      refine (runs_advance 0x7B _).bind ?_
      refine Runs.closing ((runs_foldEntries hentries hinner rest).bind ?_) (runs_endObject rest)
      rw [List.append_nil, ← List.reverse_append, List.reverse_reverse]
      exact (Runs.pure tag _).bind (.pure _ _)

/-- **A member is read from every spelling of every object that describes it.** -/
theorem accepts_described_member (depth : Nat) {v : Json} {m : Member} (hv : Describes m.forms v) :
    Accepts (Member.read (depth + 3)) v m := by
  obtain ⟨entries, rfl⟩ := hv.exists_object
  obtain ⟨before, after, rfl, hkeys, hrest⟩ := hv.exists_text m.name_ne_kind
  have hvalues : ∀ e ∈ before ++ after, e.1 ≠ "kind" ∧ Accepts (value (depth + 2)) e.2 e.2 := by
    intro e he
    cases hrest.textual (m.textual_forms depth) with
    | object htextual => exact ⟨hkeys e he, accepts_value (htextual e he)⟩
  intro gap text rest hgap htext
  refine (accepts_readTagged_anywhere m.tag hvalues gap text rest hgap htext).bind ?_
  simp only [Member.decode_described hrest]
  exact .pure m rest

/-! ### Types and documents -/

theorem accepts_described_word [Vocabulary α] {Means : String → Prop} {a : α} {v : Json}
    (depth : Nat) (hmeans : ∀ word, Means word → Vocabulary.ofName word = .ok a)
    (hv : ∃ word, Means word ∧ v = .string word) : Accepts (word depth) v a := by
  obtain ⟨w, hw, rfl⟩ := hv
  exact accepts_word depth (hmeans w hw)

theorem accepts_described_list {Stands : Json → α → Prop} {depth : Nat} {item : Nat → Reader α}
    {name : String} {as : List α} {v : Json}
    (hitem : ∀ v a, Stands v a → Accepts (item depth) v a)
    (hv : (FieldForm.list name Stands as).Stands v) :
    Accepts (Reader.list (depth + 1) item) v as := by
  obtain ⟨vs, hvs, rfl⟩ := hv
  exact accepts_list item (hvs.imp hitem)

theorem accepts_described_text {name : String} {o : Option String} {v : Json}
    (hv : (FieldForm.optional name IsText o).Stands v) : Accepts (optional readText) v o := by
  rcases hv with ⟨rfl, rfl⟩ | ⟨s, rfl, rfl⟩
  · exact accepts_optional_null readText
  · exact accepts_optional (by simp) (accepts_readText s)

/-- What is known of a type when some of its keys have been seen. -/
def TypeDecl.sketch (t : TypeDecl) (seen : String → Bool) : TypeDraft :=
  ⟨known (seen "name") t.name, known (seen "kind") t.kind, known (seen "abstract") t.isAbstract,
    known (seen "visibility") t.visibility, known (seen "members") t.members,
    known (seen "base") t.base, known (seen "interfaces") t.interfaces,
    known (seen "enum_members") t.enumMembers⟩

/-- **A type is read from every spelling of every object that describes it.** -/
theorem accepts_described_type (depth : Nat) {v : Json} {t : TypeDecl} (hv : Describes t.forms v) :
    Accepts (TypeDecl.read (depth + 5)) v t := by
  have htexts : ∀ v s, IsText v s → Accepts readText v s := by
    rintro _ s rfl
    exact accepts_readText s
  refine accepts_record_of_describes TypeDecl.record t.sketch
    ["name", "kind", "abstract", "visibility", "members", "base", "interfaces", "enum_members"]
    rfl rfl (by decide) rfl ?_ ?_ hv
  · simp only [TypeDecl.forms, List.forall_mem_cons]
    refine ⟨?_, ?_, ?_, ?_, ?_, ?_, ?_, ?_, fun _ h => nomatch h⟩
    · rintro seen v hseen rfl
      exact acceptsEntry_field rfl (known_eq_none hseen _) (accepts_readText _) rfl
    · intro seen v hseen hv
      exact acceptsEntry_field rfl (known_eq_none hseen _)
        (accepts_described_word _ (fun _ h => h.ofName) hv) rfl
    · rintro seen v hseen rfl
      exact acceptsEntry_field rfl (known_eq_none hseen _) (accepts_boolean _) rfl
    · intro seen v hseen hv
      exact acceptsEntry_field rfl (known_eq_none hseen _)
        (accepts_described_word _ (fun _ h => h.ofName) hv) rfl
    · intro seen v hseen hv
      exact acceptsEntry_field rfl (known_eq_none hseen _)
        (accepts_described_list (fun _ _ hm => accepts_described_member depth hm) hv) rfl
    · intro seen v hseen hv
      exact acceptsEntry_field rfl (known_eq_none hseen _) (accepts_described_text hv) rfl
    · intro seen v hseen hv
      exact acceptsEntry_field rfl (known_eq_none hseen _) (accepts_described_list htexts hv) rfl
    · intro seen v hseen hv
      exact acceptsEntry_field rfl (known_eq_none hseen _) (accepts_described_list htexts hv) rfl
  · intro seen hmissing
    simp only [TypeDecl.forms, Visibility.form, FieldForm.text, FieldForm.word,
      FieldForm.optional, FieldForm.list, List.forall_mem_cons] at hmissing
    obtain ⟨hname, hkind, habstract, hvisibility, hmembers, hbase, hinterfaces, henum, -⟩ :=
      hmissing
    simp only [TypeDecl.record, TypeDecl.sketch, present_known hname, getD_known hkind,
      getD_known habstract, getD_known hvisibility, getD_known hmembers, getD_known hbase,
      getD_known hinterfaces, getD_known henum]
    rfl

theorem accepts_described_document (depth : Nat) {v : Json} {types : List TypeDecl}
    (hv : Describes (documentForms types) v) : Accepts (readDocument (depth + 7)) v types := by
  refine accepts_record_of_describes documentRecord
    (fun seen => ⟨known (seen "types") types⟩) ["types"] rfl rfl (by decide) rfl ?_ ?_ hv
  · simp only [documentForms, List.forall_mem_cons]
    refine ⟨fun seen v hseen hv => ?_, fun _ h => nomatch h⟩
    exact acceptsEntry_field rfl (known_eq_none hseen _)
      (accepts_described_list (fun _ _ ht => accepts_described_type depth ht) hv) rfl
  · intro seen hmissing
    simp only [documentForms, FieldForm.list, List.forall_mem_cons] at hmissing
    simp only [documentRecord, getD_known hmissing.1]
    rfl

/-! ### Texts -/

/-- The text writes the declarations: it is a spelling of an object that describes them, with blanks
around it. -/
def Writes (text : String) (types : List TypeDecl) : Prop :=
  ∃ v gap spelling gap', Describes (documentForms types) v ∧ Blank gap ∧ Spells v spelling ∧
    Blank gap' ∧ Text.bytes text = gap ++ (spelling ++ gap')

/-- **Declarations with names are loaded from every text that writes them.** -/
theorem ofText_of_writes {text : String} {types : List TypeDecl} (h : Writes text types)
    (hnamed : ∀ t ∈ types, t.name ≠ "") :
    ∃ g, Graph.ofText text = .ok g ∧ g.toList = types := by
  obtain ⟨v, gap, spelling, gap', hv, hgap, hspelling, hgap', htext⟩ := h
  have hread : readString readDocument text = .ok types :=
    readString_of_accepts (accepts_described_document _ hv) hgap hspelling hgap' htext
  obtain ⟨g, hadd, hlist⟩ := Graph.empty.exists_addAll hnamed
  refine ⟨g, ?_, hlist⟩
  unfold Graph.ofText
  rw [hread]
  exact hadd

/-- A class at a level without a word of its own, with one method. -/
def tugboat : TypeDecl :=
  { name := "Tug", visibility := .unknown, members := [.method { name := "tow" }] }

/-- An object that describes the class: its level is a word that means nothing, its method tells
last what it is, and the absent base is written out. -/
def tugboatJson : Json :=
  .object [("members", .array [.object [("name", .string "tow"), ("kind", .string "method")]]),
    ("name", .string "Tug"), ("visibility", .string "secret"), ("base", .null)]

/-- A document that describes the class and has an entry of its own. -/
def tugboatDocument : Json := .object [("note", .string "a/b"), ("types", .array [tugboatJson])]

/-- A spelling of the document, with escapes in a key and in a value. -/
def tugboatText : String :=
  "\x7b \"note\":\"a\\/b\",\"types\":[\x7b\"members\":[\x7b\"name\":\"tow\","
    ++ "\"kind\":\"method\"\x7d],\"n\\u0061me\":\"Tug\",\n\"visibility\":\"secret\","
    ++ "\"base\":null\x7d]\x7d\n"

theorem describes_tugboat : Describes (documentForms [tugboat]) tugboatDocument := by
  have hnone : ∀ forms, Extra forms [] := fun _ _ h => nomatch h
  have hmethod : Describes (Member.method { name := "tow" }).forms
      (.object [("name", .string "tow"), ("kind", .string "method")]) :=
    .object (.write rfl (.write rfl (.skip rfl (.skip rfl (.skip rfl (.skip rfl .nil))))))
      (hnone _) (.swap _ _ _)
  have hsecret : Visibility.unknown.Word "secret" := .inr ⟨rfl, by decide⟩
  have htug : Describes tugboat.forms tugboatJson :=
    .object
      (.write rfl (.skip rfl (.skip rfl (.write ⟨_, hsecret, rfl⟩
        (.write ⟨_, .cons hmethod .nil, rfl⟩ (.write (.inl ⟨rfl, rfl⟩)
          (.skip rfl (.skip rfl .nil))))))))
      (hnone _) ((List.Perm.swap _ _ _).trans ((List.Perm.swap _ _ _).cons _))
  have hnote : Extra (documentForms [tugboat]) [("note", .string "a/b")] := by
    intro e he
    obtain rfl := List.mem_singleton.mp he
    exact ⟨by simp [documentForms, FieldForm.list], "a/b", rfl⟩
  exact .object (.write ⟨_, .cons htug .nil, rfl⟩ .nil) hnote (.swap _ _ _)

theorem writes_tugboat : Writes tugboatText [tugboat] := by
  have hs : ∀ s : String, SpellsChars s.toList (Text.bytes (escapedChars s.toList)) :=
    fun s => spellsChars_escapedChars s.toList
  have hself : ∀ c : Char, 0x20 ≤ c.toNat ∧ c ≠ '"' ∧ c ≠ '\\' →
      SpellsChar c (String.utf8EncodeChar c) := fun c ⟨h, h', h''⟩ => .plain h h' h''
  have hletter : ((0x2F : UInt8), '/') ∈ shortEscapes := by decide
  have hslash : SpellsChars ['a', '/', 'b'] _ :=
    .cons (hself 'a' (by decide)) (.cons (.escape (.short hletter))
      (.cons (hself 'b' (by decide)) .nil))
  have hnumber : HexNumber [0x30, 0x30, 0x36, 0x31] 'a'.toNat :=
    .mk (.decimal (by decide : 0 < 10)) (.decimal (by decide : 0 < 10))
      (.decimal (by decide : 6 < 10)) (.decimal (by decide : 1 < 10))
  have hname : SpellsChars ['n', 'a', 'm', 'e'] _ :=
    .cons (hself 'n' (by decide)) (.cons (.escape (.unit hnumber))
      (.cons (hself 'm' (by decide)) (.cons (hself 'e' (by decide)) .nil)))
  have hspace : Blank [0x20] := by simp [Blank]
  have hline : Blank [0x0A] := by simp [Blank]
  have hfirst : Separator true [] := .first .nil
  have hcomma : Separator false [0x2C] := .comma .nil .nil
  have hmethod : Spells (.object [("name", .string "tow"), ("kind", .string "method")]) _ :=
    .object (.entry hfirst (hs _) .nil .nil (.string (hs _))
      (.entry hcomma (hs _) .nil .nil (.string (hs _)) (.close .nil)))
  have htug : Spells tugboatJson _ :=
    .object (.entry hfirst (hs _) .nil .nil (.array (.item hfirst hmethod (.close .nil)))
      (.entry hcomma hname .nil .nil (.string (hs _))
        (.entry (.comma .nil hline) (hs _) .nil .nil (.string (hs _))
          (.entry hcomma (hs _) .nil .nil .null (.close .nil)))))
  have hdocument : Spells tugboatDocument _ :=
    .object (.entry (.first hspace) (hs _) .nil .nil (.string hslash)
      (.entry hcomma (hs _) .nil .nil (.array (.item hfirst htug (.close .nil))) (.close .nil)))
  exact ⟨tugboatDocument, [], _, [0x0A], describes_tugboat, .nil, hdocument, hline,
    by decide +kernel⟩

theorem ofText_of_writes_tugboat :
    Writes tugboatText [tugboat] ∧ ∃ g, Graph.ofText tugboatText = .ok g ∧ g.toList = [tugboat] :=
  ⟨writes_tugboat, ofText_of_writes writes_tugboat (by decide)⟩
end ClassDiagram
