import ClassDiagram.Proofs.Json.Decoding
import ClassDiagram.Proofs.Json.Writing
import ClassDiagram.Symbol.Encoding
import ClassDiagram.Symbol.Load

/-! # Declarations survive writing and reading

What is written of a declaration is read back as the same declaration.  Both sides are compared with
the value between them: the layouts write a spelling of it (`written_member`, `written_typeDecl`,
`written_document`), and the readers accept every spelling of it (`accepts_member`,
`accepts_typeDecl`, `accepts_document`).

Entries that hold nothing are left out when they are written.  A draft then misses them, and
finishing it puts the default in their place, which is what was left out (`listed`,
`getD_map_some`). -/

namespace ClassDiagram

open Json Json.Reader

variable {α σ : Type}

/-! ### Entries that may be left out -/

/-- What a draft knows of a list that is left out if it is empty. -/
def listed : List α → Option (List α)
  | [] => none
  | a :: as => some (a :: as)

theorem getD_listed (as : List α) : (listed as).getD [] = as := by
  cases as <;> rfl

theorem getD_map_some (o : Option α) : (o.map some).getD none = o := by
  cases o <;> rfl

theorem leads_listEntry {step : σ → String → Json → σ → Prop} {s : σ} {name : String}
    {f : α → Json} {as : List α} (put : Option (List α) → σ) (hnone : put none = s)
    (h : step s name (.array (as.map f)) (put (some as))) :
    Leads step s (listEntry name (as.map f)) (put (listed as)) := by
  cases as with
  | nil =>
      rw [listed, hnone]
      exact .nil s
  | cons a as => exact .single h

theorem leads_optionalEntry {step : σ → String → Json → σ → Prop} {s : σ} {name : String}
    {f : α → Json} {o : Option α} (put : Option (Option α) → σ) (hnone : put none = s)
    (h : ∀ a, step s name (f a) (put (some (some a)))) :
    Leads step s (optionalEntry name (o.map f)) (put (o.map some)) := by
  cases o with
  | none =>
      rw [Option.map_none, Option.map_none, hnone]
      exact .nil s
  | some a => exact .single (h a)

theorem forall_mem_optionalEntry {P : String × Json → Prop} {name : String} {o : Option α}
    {f : α → Json} (h : ∀ a, P (name, f a)) : ∀ e ∈ optionalEntry name (o.map f), P e := by
  intro e he
  cases o with
  | none => cases he
  | some a => exact List.mem_singleton.mp he ▸ h a

theorem forall_mem_listEntry {P : String × Json → Prop} {name : String} {items : List Json}
    (h : P (name, .array items)) : ∀ e ∈ listEntry name items, P e := by
  intro e he
  cases items with
  | nil => cases he
  | cons v items => exact List.mem_singleton.mp he ▸ h

/-! ### Writing -/

section writing
variable {lay : Layout} (hlay : lay.Blanks)
include hlay

theorem written_parameter (p : Parameter) : Written lay p.toJson := by
  refine written_object hlay ?_
  simp only [List.forall_mem_cons]
  exact ⟨written_string lay _, written_string lay _, fun _ h => nomatch h⟩

theorem written_accessor (a : Accessor) : Written lay a.toJson := by
  refine written_object hlay ?_
  simp only [List.forall_mem_cons]
  exact ⟨written_string lay _, fun _ h => nomatch h⟩

theorem written_array_map {f : α → Json} (h : ∀ a, Written lay (f a)) (as : List α) :
    Written lay (.array (as.map f)) := by
  refine written_array hlay fun v hv => ?_
  obtain ⟨a, -, rfl⟩ := List.mem_map.mp hv
  exact h a

theorem written_member (m : Member) : Written lay m.toJson := by
  have hs := written_string lay
  cases m with
  | field f =>
      refine written_object hlay ?_
      simp only [Field.entries, List.forall_mem_cons]
      exact ⟨hs _, hs _, hs _, hs _, fun _ h => nomatch h⟩
  | method m =>
      refine written_object hlay ?_
      simp only [Method.entries, List.forall_mem_cons, List.forall_mem_append]
      exact ⟨hs _, ⟨⟨hs _, hs _, hs _, fun _ h => nomatch h⟩,
        forall_mem_optionalEntry fun t => hs t⟩,
        written_array_map hlay (written_parameter hlay) _, fun _ h => nomatch h⟩
  | property p =>
      refine written_object hlay ?_
      simp only [Property.entries, List.forall_mem_cons, List.forall_mem_append]
      exact ⟨hs _, ⟨⟨hs _, hs _, hs _, fun _ h => nomatch h⟩,
        forall_mem_optionalEntry fun a => written_accessor hlay a⟩,
        forall_mem_optionalEntry fun a => written_accessor hlay a⟩

theorem written_typeDecl (t : TypeDecl) : Written lay t.toJson := by
  have hs := written_string lay
  refine written_object hlay ?_
  simp only [List.forall_mem_cons, List.forall_mem_append]
  exact ⟨⟨⟨⟨⟨hs _, hs _, written_bool lay _, hs _, fun _ h => nomatch h⟩,
    forall_mem_listEntry (written_array_map hlay (written_member hlay) _)⟩,
    forall_mem_optionalEntry fun t => hs t⟩,
    forall_mem_listEntry (written_array_map hlay hs _)⟩,
    forall_mem_listEntry (written_array_map hlay hs _)⟩

theorem written_document (types : List TypeDecl) : Written lay (documentJson types) := by
  refine written_object hlay ?_
  simp only [List.forall_mem_cons]
  exact ⟨written_array_map hlay (written_typeDecl hlay) _, fun _ h => nomatch h⟩

end writing

/-! ### Taking members apart -/

section decoding
open Decoder

theorem ofName_visibility (v : Visibility) : Vocabulary.ofName v.name = .ok v :=
  congrArg Except.ok v.ofName_name

theorem ofName_typeKind (k : TypeKind) : Vocabulary.ofName k.name = .ok k :=
  congrArg Except.ok k.ofName_name

theorem ofName_methodKind (k : MethodKind) : Vocabulary.ofName k.name = .ok k :=
  congrArg Except.ok k.ofName_name

theorem ofName_memberTag (tag : MemberTag) : Vocabulary.ofName tag.name = .ok tag := by
  cases tag <;> rfl

theorem decode_parameter (p : Parameter) : record Parameter.record p.toJson = .ok p := by
  refine record_of_leads ⟨some p.type, some p.name⟩ ?_ rfl
  refine .cons ⟨_, rfl, rfl, fill_of rfl⟩ ?_
  refine .cons ⟨_, rfl, rfl, fill_of rfl⟩ ?_
  exact .nil _

theorem decode_accessor (a : Accessor) : record Accessor.record a.toJson = .ok a := by
  refine record_of_leads ⟨some a.visibility⟩ ?_ rfl
  exact .single ⟨_, rfl, rfl, fill_of (word_string (ofName_visibility _) true)⟩

theorem decode_field (f : Field) : record Field.record (.object f.entries) = .ok f := by
  refine record_of_leads ⟨some f.name, some f.visibility, some f.type⟩ ?_ rfl
  refine .cons ⟨_, rfl, rfl, fill_of rfl⟩ ?_
  refine .cons ⟨_, rfl, rfl, fill_of (word_string (ofName_visibility _) true)⟩ ?_
  refine .cons ⟨_, rfl, rfl, fill_of rfl⟩ ?_
  exact .nil _

/-- The draft of a method whose three fields that are always written have been read. -/
def Method.draft (m : Method) (returns : Option (Option TypeRef))
    (parameters : Option (List Parameter)) : MethodDraft :=
  ⟨some m.name, some m.visibility, some m.kind, returns, parameters⟩

theorem decode_method (m : Method) : record Method.record (.object m.entries) = .ok m := by
  have hfixed : Leads (Fills Method.record) {}
      [("name", .string m.name), ("visibility", .string m.visibility.name),
        ("method_kind", .string m.kind.name)] (m.draft none none) :=
    .cons ⟨_, rfl, rfl, fill_of rfl⟩
      (.cons ⟨_, rfl, rfl, fill_of (word_string (ofName_visibility m.visibility) true)⟩
        (.single ⟨_, rfl, rfl, fill_of (word_string (ofName_methodKind m.kind) true)⟩))
  have hreturns : Leads (Fills Method.record) (m.draft none none)
      (optionalEntry "return_type" (m.returns.map .string)) (m.draft (m.returns.map some) none) :=
    leads_optionalEntry (m.draft · none) rfl
      fun t => ⟨_, rfl, rfl, fill_of (optional_some (by simp) rfl)⟩
  have hparameters : Leads (Fills Method.record) (m.draft (m.returns.map some) none)
      [("parameters", .array (m.parameters.map Parameter.toJson))]
      (m.draft (m.returns.map some) (some m.parameters)) :=
    .single ⟨_, rfl, rfl, fill_of (eachItem_map decode_parameter m.parameters)⟩
  refine record_of_leads _ ((hfixed.append hreturns).append hparameters) ?_
  show Except.ok (Method.mk _ _ _ ((m.returns.map some).getD none) _) = .ok m
  rw [getD_map_some]
  rfl

/-- The draft of a property whose three fields that are always written have been read. -/
def Property.draft (p : Property) (getter setter : Option (Option Accessor)) : PropertyDraft :=
  ⟨some p.name, some p.visibility, some p.type, getter, setter⟩

theorem decode_property (p : Property) : record Property.record (.object p.entries) = .ok p := by
  have haccessor : ∀ a : Accessor,
      Decoder.optional (record Accessor.record) a.toJson = .ok (some a) :=
    fun a => optional_some (by simp [Accessor.toJson]) (decode_accessor a)
  have hfixed : Leads (Fills Property.record) {}
      [("name", .string p.name), ("visibility", .string p.visibility.name),
        ("type", .string p.type)] (p.draft none none) :=
    .cons ⟨_, rfl, rfl, fill_of rfl⟩
      (.cons ⟨_, rfl, rfl, fill_of (word_string (ofName_visibility p.visibility) true)⟩
        (.single ⟨_, rfl, rfl, fill_of rfl⟩))
  have hgetter : Leads (Fills Property.record) (p.draft none none)
      (optionalEntry "getter" (p.getter.map Accessor.toJson)) (p.draft (p.getter.map some) none) :=
    leads_optionalEntry (p.draft · none) rfl fun a => ⟨_, rfl, rfl, fill_of (haccessor a)⟩
  have hsetter : Leads (Fills Property.record) (p.draft (p.getter.map some) none)
      (optionalEntry "setter" (p.setter.map Accessor.toJson))
      (p.draft (p.getter.map some) (p.setter.map some)) :=
    leads_optionalEntry (p.draft (p.getter.map some) ·) rfl
      fun a => ⟨_, rfl, rfl, fill_of (haccessor a)⟩
  refine record_of_leads _ ((hfixed.append hgetter).append hsetter) ?_
  show Except.ok (Property.mk _ _ _ ((p.getter.map some).getD none)
    ((p.setter.map some).getD none)) = .ok p
  rw [getD_map_some, getD_map_some]
  rfl

end decoding

/-! ### Reading members -/

/-- Entries other than the tag are kept for later, in reverse order. -/
theorem acceptsEntries_memberDraft {depth : Nat} {tag : Option MemberTag}
    {entries : List (String × Json)}
    (h : ∀ e ∈ entries, e.1 ≠ "kind" ∧ Accepts (value depth) e.2 e.2)
    (done : List (String × Json)) :
    AcceptsEntries (MemberDraft.entry depth) ⟨tag, done⟩ entries
      ⟨tag, entries.reverse ++ done⟩ := by
  induction entries generalizing done with
  | nil => exact .nil _
  | cons e entries ih =>
      obtain ⟨name, v⟩ := e
      obtain ⟨hname, hv⟩ := h (name, v) List.mem_cons_self
      have hentry : Accepts (do return MemberDraft.mk tag ((name, ← value depth) :: done)) v
          ⟨tag, (name, v) :: done⟩ :=
        fun gap text rest hgap htext => (hv gap text rest hgap htext).bind (.pure _ _)
      rw [List.reverse_cons, List.append_assoc]
      refine .cons ?_ (ih (fun e he => h e (List.mem_cons_of_mem _ he)) ((name, v) :: done))
      unfold MemberDraft.entry
      rw [if_neg hname]
      exact hentry.entry

theorem accepts_readTagged {depth : Nat} (tag : MemberTag) {entries : List (String × Json)}
    (h : ∀ e ∈ entries, e.1 ≠ "kind" ∧ Accepts (value depth) e.2 e.2) :
    Accepts (Member.readTagged (depth + 1)) (.object (("kind", .string tag.name) :: entries))
      (tag, .object entries) := by
  have htag : Accepts (do return { tag := some (← identifier) : MemberDraft })
      (.string tag.name) ⟨some tag, []⟩ :=
    fun gap text rest hgap htext =>
      (accepts_identifier (ofName_memberTag tag) gap text rest hgap htext).bind (.pure _ _)
  have hentries : AcceptsEntries (MemberDraft.entry depth) {}
      (("kind", .string tag.name) :: entries) ⟨some tag, entries.reverse ++ []⟩ :=
    .cons htag.entry (acceptsEntries_memberDraft h [])
  intro gap text rest hgap htext
  cases htext with
  | object hinner =>
      refine Runs.placing ((runs_token hgap rfl _).bind ?_)
      refine (runs_advance 0x7B _).bind ?_
      refine Runs.closing ((runs_foldEntries hentries hinner rest).bind ?_) (runs_endObject rest)
      rw [List.append_nil, List.reverse_reverse]
      exact (Runs.pure tag _).bind (.pure _ _)

theorem accepts_value_parameter (depth : Nat) (p : Parameter) :
    Accepts (value (depth + 1)) p.toJson p.toJson := by
  refine accepts_value_object ?_
  simp only [List.forall_mem_cons]
  exact ⟨accepts_value_string depth _, accepts_value_string depth _, fun _ h => nomatch h⟩

theorem accepts_value_accessor (depth : Nat) (a : Accessor) :
    Accepts (value (depth + 1)) a.toJson a.toJson := by
  refine accepts_value_object ?_
  simp only [List.forall_mem_cons]
  exact ⟨accepts_value_string depth _, fun _ h => nomatch h⟩

theorem accepts_value_parameters (depth : Nat) (ps : List Parameter) :
    Accepts (value (depth + 2)) (.array (ps.map Parameter.toJson))
      (.array (ps.map Parameter.toJson)) := by
  refine accepts_value_array fun v hv => ?_
  obtain ⟨p, -, rfl⟩ := List.mem_map.mp hv
  exact accepts_value_parameter depth p

/-- What a member says it is, and the other entries that are written of it. -/
def Member.parts : Member → MemberTag × List (String × Json)
  | .field f => (.field, f.entries)
  | .method m => (.method, m.entries)
  | .property p => (.property, p.entries)

theorem Member.toJson_eq (m : Member) :
    m.toJson = .object (("kind", .string m.parts.1.name) :: m.parts.2) := by
  cases m <;> rfl

theorem Member.decode_parts (m : Member) :
    Member.decode m.parts.1 (.object m.parts.2) = .ok m := by
  cases m with
  | field f => exact congrArg (Except.map Member.field) (decode_field f)
  | method m => exact congrArg (Except.map Member.method) (decode_method m)
  | property p => exact congrArg (Except.map Member.property) (decode_property p)

theorem Member.accepts_parts (depth : Nat) (m : Member) :
    ∀ e ∈ m.parts.2, e.1 ≠ "kind" ∧ Accepts (value (depth + 2)) e.2 e.2 := by
  have hs := accepts_value_string (depth + 2)
  cases m with
  | field f =>
      simp only [Member.parts, Field.entries, List.forall_mem_cons]
      exact ⟨⟨by decide, hs _⟩, ⟨by decide, hs _⟩, ⟨by decide, hs _⟩, fun _ h => nomatch h⟩
  | method m =>
      simp only [Member.parts, Method.entries, List.forall_mem_cons, List.forall_mem_append]
      exact ⟨⟨⟨⟨by decide, hs _⟩, ⟨by decide, hs _⟩, ⟨by decide, hs _⟩, fun _ h => nomatch h⟩,
        forall_mem_optionalEntry fun t => ⟨by simp, hs t⟩⟩,
        ⟨by decide, accepts_value_parameters depth m.parameters⟩, fun _ h => nomatch h⟩
  | property p =>
      have ha := fun a => accepts_value_accessor (depth + 1) a
      simp only [Member.parts, Property.entries, List.forall_mem_cons, List.forall_mem_append]
      exact ⟨⟨⟨⟨by decide, hs _⟩, ⟨by decide, hs _⟩, ⟨by decide, hs _⟩, fun _ h => nomatch h⟩,
        forall_mem_optionalEntry fun a => ⟨by simp, ha a⟩⟩,
        forall_mem_optionalEntry fun a => ⟨by simp, ha a⟩⟩

/-- **A member is read back from every spelling of what is written of it.** -/
theorem accepts_member (depth : Nat) (m : Member) :
    Accepts (Member.read (depth + 3)) m.toJson m := by
  intro gap text rest hgap htext
  rw [m.toJson_eq] at htext
  refine (accepts_readTagged m.parts.1 (m.accepts_parts depth) gap text rest hgap htext).bind ?_
  simp only [m.decode_parts]
  exact .pure m rest

/-! ### Reading types and documents -/

theorem forall₂_map {r : Reader α} {f : α → Json} (h : ∀ a, Accepts r (f a) a) (as : List α) :
    List.Forall₂ (Accepts r) (as.map f) as := by
  rw [List.forall₂_map_left_iff]
  exact List.forall₂_same.mpr fun a _ => h a

theorem accepts_readText (s : String) : Accepts readText (.string s) s := accepts_text _ s

/-- An entry goes into a field that the draft still misses. -/
theorem acceptsEntry_field {δ β : Type} {r : Record Reader δ α} {name : String} {required : Bool}
    {get : δ → Option β} {put : δ → β → δ} {take : Reader β} {draft draft' : δ} {v : Json} {b : β}
    (hslot : r.slot? name = some (.of name required get put take)) (hfree : get draft = none)
    (h : Accepts take v b) (hput : put draft b = draft') :
    AcceptsEntry (recordEntry r draft name) v draft' := by
  refine acceptsEntry_recordEntry hslot ?_ (hput ▸ h.map (put draft))
  show (get draft).isSome = false
  rw [hfree]
  rfl

/-- The draft of a type whose four fields that are always written have been read. -/
def TypeDecl.draft (t : TypeDecl) (members : Option (List Member))
    (base : Option (Option TypeRef)) (interfaces : Option (List TypeRef))
    (enumMembers : Option (List String)) : TypeDraft :=
  ⟨some t.name, some t.kind, some t.isAbstract, some t.visibility, members, base, interfaces,
    enumMembers⟩

/-- **A type is read back from every spelling of what is written of it.** -/
theorem accepts_typeDecl (depth : Nat) (t : TypeDecl) :
    Accepts (TypeDecl.read (depth + 5)) t.toJson t := by
  have hlist := accepts_list Member.read (forall₂_map (accepts_member depth) t.members)
  have htexts : ∀ names : List String,
      Accepts (Reader.list (depth + 4) fun _ => readText) (.array (names.map .string)) names :=
    fun names => accepts_list _ (forall₂_map accepts_readText names)
  have hfixed : AcceptsEntries (recordEntry (TypeDecl.record (depth + 4))) {}
      [("name", .string t.name), ("kind", .string t.kind.name), ("abstract", .bool t.isAbstract),
        ("visibility", .string t.visibility.name)] (t.draft none none none none) :=
    .cons (acceptsEntry_field rfl rfl (accepts_readText t.name) rfl)
      (.cons (acceptsEntry_field rfl rfl (accepts_word _ (ofName_typeKind t.kind)) rfl)
        (.cons (acceptsEntry_field rfl rfl (accepts_boolean t.isAbstract) rfl)
          (.single
            (acceptsEntry_field rfl rfl (accepts_word _ (ofName_visibility t.visibility)) rfl))))
  have hmembers : AcceptsEntries (recordEntry (TypeDecl.record (depth + 4))) _
      (listEntry "members" (t.members.map Member.toJson))
      (t.draft (listed t.members) none none none) :=
    leads_listEntry (t.draft · none none none) rfl (acceptsEntry_field rfl rfl hlist rfl)
  have hbase : AcceptsEntries (recordEntry (TypeDecl.record (depth + 4))) _
      (optionalEntry "base" (t.base.map .string))
      (t.draft (listed t.members) (t.base.map some) none none) :=
    leads_optionalEntry (t.draft (listed t.members) · none none) rfl fun base =>
      acceptsEntry_field rfl rfl (accepts_optional (by simp) (accepts_readText base)) rfl
  have hinterfaces : AcceptsEntries (recordEntry (TypeDecl.record (depth + 4))) _
      (listEntry "interfaces" (t.interfaces.map .string))
      (t.draft (listed t.members) (t.base.map some) (listed t.interfaces) none) :=
    leads_listEntry (t.draft (listed t.members) (t.base.map some) · none) rfl
      (acceptsEntry_field rfl rfl (htexts t.interfaces) rfl)
  have henum : AcceptsEntries (recordEntry (TypeDecl.record (depth + 4))) _
      (listEntry "enum_members" (t.enumMembers.map .string))
      (t.draft (listed t.members) (t.base.map some) (listed t.interfaces)
        (listed t.enumMembers)) :=
    leads_listEntry (t.draft (listed t.members) (t.base.map some) (listed t.interfaces) ·) rfl
      (acceptsEntry_field rfl rfl (htexts t.enumMembers) rfl)
  refine accepts_record TypeDecl.record _
    ((((hfixed.append hmembers).append hbase).append hinterfaces).append henum) ?_
  show Except.ok (TypeDecl.mk _ _ _ _ ((listed t.members).getD []) ((t.base.map some).getD none)
    ((listed t.interfaces).getD []) ((listed t.enumMembers).getD [])) = .ok t
  rw [getD_listed, getD_listed, getD_listed, getD_map_some]
  rfl

theorem accepts_document (depth : Nat) (types : List TypeDecl) :
    Accepts (readDocument (depth + 7)) (documentJson types) types := by
  have htypes := accepts_list TypeDecl.read (forall₂_map (accepts_typeDecl depth) types)
  exact accepts_record documentRecord ⟨some types⟩
    (.single (acceptsEntry_field rfl rfl htypes rfl)) rfl

/-! ### Whole texts -/

/-- What accepts a value reads it from a text that spells it, blanks around it included. -/
theorem readString_of_accepts {body : Nat → Reader α} {v : Json} {a : α}
    (h : Accepts (body maxDepth) v a) {text : String} {gap spelling gap' : List UInt8}
    (hgap : Blank gap) (hspelling : Spells v spelling) (hgap' : Blank gap')
    (htext : Text.bytes text = gap ++ (spelling ++ gap')) : readString body text = .ok a := by
  obtain ⟨s, hs, -, -⟩ := runs_document h hgap hspelling hgap' (Slice.start (Text.bytes text))
    ((Slice.rest_start _).trans htext) rfl
  rw [readString, readFrom, hs]

/-- What a layout writes of a value is read by whatever accepts the value. -/
theorem readString_write {lay : Layout} {body : Nat → Reader α} {v : Json} {a : α}
    (hwritten : Written lay v) (h : Accepts (body maxDepth) v a) :
    readString body (v.write lay) = .ok a :=
  readString_of_accepts h .nil (hwritten 0) .nil (List.append_nil _).symm

end ClassDiagram
