import ClassDiagram.Proofs.Diagram.Drawn
import Mathlib.Data.List.Flatten
import Mathlib.Data.List.Forall2

/-! # Narrowing a diagram

The narrow filter shows less than the wide one: fewer types, of each type fewer members and edges,
and of each property fewer marks.  To say this of whole texts, each line is kept apart from the
marks that stand at its end (`MarkedLine`); together they are the lines of the diagram
(`text_markedLines`).

`lines_narrowing` says that the lines under the narrow filter, without marks, are some of the lines
under the wide filter in the same order.  Every stage has its own lemma: `entries_sublist` for the
types, `markedBody_narrowing` for the members and `edges_sublist` for the edges, which depends on
interfaces being brought in by declarations that need not be drawn. -/

namespace ClassDiagram

open scoped List
open List (SublistForall₂)

/-! ### Lists that are filtered more -/

section lists
variable {α β γ : Type} {R : β → γ → Prop}

theorem sublistForall₂_filterMap {f : α → Option β} {g : α → Option γ}
    (h : ∀ a b, f a = some b → ∃ c, g a = some c ∧ R b c) (as : List α) :
    SublistForall₂ R (as.filterMap f) (as.filterMap g) := by
  induction as with
  | nil => exact .nil
  | cons a as ih =>
      rw [List.filterMap_cons, List.filterMap_cons]
      cases hf : f a with
      | none =>
          cases g a with
          | none => exact ih
          | some c => exact .cons_right ih
      | some b =>
          obtain ⟨c, hg, hR⟩ := h a b hf
          rw [hg]
          exact .cons hR ih

theorem sublist_map_of_sublistForall₂ {f : β → α} {g : γ → α} {bs : List β} {cs : List γ}
    (h : ∀ b c, R b c → f b = g c) (hs : SublistForall₂ R bs cs) : bs.map f <+ cs.map g := by
  induction hs with
  | nil => exact List.nil_sublist _
  | cons hR _ ih =>
      rw [List.map_cons, List.map_cons, h _ _ hR]
      exact ih.cons_cons _
  | cons_right _ ih => exact ih.cons _

end lists

/-! ### Lines with their marks apart -/

/-- A line and the marks at its end. -/
structure MarkedLine where
  plain : String
  marks : List String := []
  deriving DecidableEq, Repr

namespace MarkedLine

/-- The line as it is written. -/
def text (l : MarkedLine) : String := l.plain ++ String.join l.marks

/-- The same line with some of the marks. -/
def Fewer (l l' : MarkedLine) : Prop := l.plain = l'.plain ∧ l.marks <+ l'.marks

theorem text_mk (plain : String) : text ⟨plain, []⟩ = plain := String.append_empty

theorem map_text_mk (lines : List String) :
    (lines.map fun l => (⟨l, []⟩ : MarkedLine)).map text = lines := by
  rw [List.map_map]
  exact (List.map_congr_left fun l _ => text_mk l).trans (List.map_id' lines)

end MarkedLine

namespace Member

/-- Whether a member has a line. -/
def shown (filter : Filter) (m : Member) : Bool :=
  filter.allows m.visibility &&
    match m with
    | .method m => !m.kind.isAccessor
    | .field _ | .property _ => true

/-- The line of a member before its marks. -/
def plain : Member → String
  | .field f => f.line
  | .method m => m.line
  | .property p => p.visibility.glyph ++ p.type ++ " " ++ p.name

/-- The marks at the end of a member's line: those of a property's accessors. -/
def marks (filter : Filter) : Member → List String
  | .field _ | .method _ => []
  | .property p =>
    (if filter.allowsAccessor p.setter then [writeMark] else []) ++
      if filter.allowsAccessor p.getter then [readMark] else []

/-- The line of a member with its marks apart. -/
def markedLine? (filter : Filter) (m : Member) : Option MarkedLine :=
  if m.shown filter then some ⟨m.plain, m.marks filter⟩ else none

theorem text_property (filter : Filter) (p : Property) :
    MarkedLine.text ⟨plain (.property p), marks filter (.property p)⟩ = p.line filter := by
  unfold MarkedLine.text plain marks Property.line Property.marks
  cases hsetter : filter.allowsAccessor p.setter <;>
    cases hgetter : filter.allowsAccessor p.getter <;>
    simp [hsetter, hgetter, String.join, String.append_assoc]

theorem text_markedLine? (filter : Filter) (m : Member) :
    (m.markedLine? filter).map MarkedLine.text = m.line? filter := by
  unfold markedLine? line? shown
  cases hallows : filter.allows m.visibility with
  | false => rfl
  | true =>
      cases m with
      | field f => exact congrArg some (MarkedLine.text_mk f.line)
      | method m =>
          cases haccessor : m.kind.isAccessor with
          | true => simp [haccessor]
          | false =>
              simp only [haccessor]
              exact congrArg some (MarkedLine.text_mk m.line)
      | property p => exact congrArg some (text_property filter p)

end Member

variable {κ : Type} [Catalog κ]

namespace Entry

/-- The lines between the braces of a block with their marks apart. -/
def markedBody (filter : Filter) (e : Entry) : List MarkedLine :=
  match e.shape with
  | .enumBlock => e.decl.enumMembers.map (⟨·, []⟩)
  | .classBlock | .interfaceBlock => e.decl.members.filterMap (Member.markedLine? filter)

/-- The lines of an entry's block with their marks apart. -/
def markedLines (catalog : κ) (selection : Selection) (e : Entry) : List MarkedLine :=
  ⟨(e.block catalog selection).header, []⟩ :: e.markedBody selection.filter ++
    ⟨Block.footer, []⟩ :: (e.block catalog selection).edgeLines.map (⟨·, []⟩)

theorem text_markedBody (filter : Filter) (e : Entry) :
    (e.markedBody filter).map MarkedLine.text = e.body filter := by
  unfold markedBody body
  have hmembers : (e.decl.members.filterMap (Member.markedLine? filter)).map MarkedLine.text =
      e.decl.members.filterMap (Member.line? filter) := by
    rw [List.map_filterMap]
    exact List.filterMap_congr fun m _ => Member.text_markedLine? filter m
  cases e.shape with
  | enumBlock => exact MarkedLine.map_text_mk _
  | classBlock => exact hmembers
  | interfaceBlock => exact hmembers

theorem text_markedLines (catalog : κ) (selection : Selection) (e : Entry) :
    (e.markedLines catalog selection).map MarkedLine.text = (e.block catalog selection).lines := by
  simp only [markedLines, Block.lines, List.map_append, List.map_cons, MarkedLine.text_mk,
    MarkedLine.map_text_mk, text_markedBody, List.cons_append]
  rfl

end Entry

/-- The lines of a diagram with their marks apart. -/
def markedLines (theme : String) (catalog : κ) (filter : Filter) : List MarkedLine :=
  (Diagram.opening theme).map (⟨·, []⟩) ++
    (Selection.of catalog filter).entries.flatMap
      (Entry.markedLines catalog (Selection.of catalog filter)) ++ [⟨Diagram.ending, []⟩]

/-- Lines and marks together are the lines of the diagram. -/
theorem text_markedLines (theme : String) (catalog : κ) (filter : Filter) :
    (markedLines theme catalog filter).map MarkedLine.text = (draw theme catalog filter).lines := by
  rw [draw_lines]
  simp only [markedLines, List.map_append, List.map_flatMap, MarkedLine.map_text_mk,
    Entry.text_markedLines, List.map_cons, List.map_nil, MarkedLine.text_mk]

/-! ### Each stage -/

theorem allowsAccessor_mono {accessor : Option Accessor}
    (h : Filter.publicOnly.allowsAccessor accessor = true) :
    Filter.publicOrInternal.allowsAccessor accessor = true := by
  cases accessor with
  | none => cases h
  | some a => exact Filter.allows_mono h

/-- What is shown under a condition is shown under a weaker one. -/
theorem sublist_of_imp {b b' : Bool} (h : b = true → b' = true) (s : String) :
    (if b then [s] else []) <+ (if b' then [s] else []) := by
  cases b with
  | false => exact List.nil_sublist _
  | true => rw [h rfl]

theorem Member.marks_sublist (m : Member) :
    m.marks .publicOnly <+ m.marks .publicOrInternal := by
  cases m with
  | field f => exact List.Sublist.refl []
  | method m => exact List.Sublist.refl []
  | property p =>
      exact (sublist_of_imp allowsAccessor_mono writeMark).append
        (sublist_of_imp allowsAccessor_mono readMark)

theorem Member.shown_mono {m : Member} (h : m.shown .publicOnly = true) :
    m.shown .publicOrInternal = true := by
  unfold shown at h ⊢
  rw [Bool.and_eq_true] at h ⊢
  exact ⟨Filter.allows_mono h.1, h.2⟩

/-- Of the members some keep their line, with some of its marks. -/
theorem Entry.markedBody_narrowing (e : Entry) :
    SublistForall₂ MarkedLine.Fewer (e.markedBody .publicOnly)
      (e.markedBody .publicOrInternal) := by
  have hmembers : SublistForall₂ MarkedLine.Fewer
      (e.decl.members.filterMap (Member.markedLine? .publicOnly))
      (e.decl.members.filterMap (Member.markedLine? .publicOrInternal)) := by
    refine sublistForall₂_filterMap (fun m l hl => ?_) e.decl.members
    unfold Member.markedLine? at hl ⊢
    cases hshown : m.shown .publicOnly with
    | false => simp [hshown] at hl
    | true =>
        rw [if_pos hshown, Option.some.injEq] at hl
        subst hl
        rw [if_pos (Member.shown_mono hshown)]
        exact ⟨_, rfl, rfl, m.marks_sublist⟩
  have henum : SublistForall₂ MarkedLine.Fewer (e.decl.enumMembers.map (⟨·, []⟩))
      (e.decl.enumMembers.map (⟨·, []⟩)) :=
    List.sublistForall₂_iff.mpr
      ⟨_, List.forall₂_same.mpr fun l _ => ⟨rfl, List.Sublist.refl _⟩, List.Sublist.refl _⟩
  unfold markedBody
  cases e.shape with
  | enumBlock => exact henum
  | classBlock => exact hmembers
  | interfaceBlock => exact hmembers

/-- The narrow filter draws some of the types that the wide filter draws. -/
theorem entries_sublist (catalog : κ) :
    (Selection.of catalog .publicOnly).entries <+
      (Selection.of catalog .publicOrInternal).entries := by
  have hentry : ∀ (t : TypeDecl) (e : Entry), t.entry? .publicOnly = some e →
      ∃ e', t.entry? .publicOrInternal = some e' ∧ e = e' := by
    intro t e he
    obtain ⟨ht, hshape, hallows⟩ := TypeDecl.entry?_eq_some.mp he
    exact ⟨e, TypeDecl.entry?_eq_some.mpr ⟨ht, hshape, Filter.allows_mono hallows⟩, rfl⟩
  have hsub := sublist_map_of_sublistForall₂ (fun _ _ h => h)
    (sublistForall₂_filterMap hentry (firsts TypeDecl.name (Catalog.types catalog)))
  rwa [List.map_id', List.map_id', ← Selection.entries_of, ← Selection.entries_of] at hsub

theorem contains_mono {catalog : κ} {name : String}
    (h : (Selection.of catalog .publicOnly).contains name = true) :
    (Selection.of catalog .publicOrInternal).contains name = true := by
  obtain ⟨e, he, hname⟩ := Selection.contains_iff.mp h
  exact Selection.contains_iff.mpr ⟨e, (entries_sublist catalog).subset he, hname⟩

theorem drawnInterfaces_sublist (catalog : κ) (t : TypeDecl) :
    t.drawnInterfaces (Selection.of catalog .publicOnly) <+
      t.drawnInterfaces (Selection.of catalog .publicOrInternal) := by
  unfold TypeDecl.drawnInterfaces
  rw [firsts_filter, firsts_filter]
  refine List.monotone_filter_right _ fun i hi => ?_
  rw [Bool.and_eq_true] at hi ⊢
  exact ⟨hi.1, contains_mono hi.2⟩

/-- The edges of a type to what is left. -/
theorem Entry.edges_sublist (catalog : κ) (e : Entry) :
    e.edges catalog (Selection.of catalog .publicOnly) <+
      e.edges catalog (Selection.of catalog .publicOrInternal) := by
  by_cases hshape : e.shape = .enumBlock
  · rw [edges_enum hshape]
    exact List.nil_sublist _
  · rw [edges_eq hshape, edges_eq hshape]
    refine List.Sublist.append (List.Sublist.map _ ?_) (List.Sublist.map _ ?_)
    · cases hbase : e.decl.drawnBase? (Selection.of catalog .publicOnly) with
      | none => exact List.nil_sublist _
      | some base =>
          obtain ⟨hb, hne, hdrawn⟩ := TypeDecl.drawnBase?_eq_some.mp hbase
          rw [TypeDecl.drawnBase?_eq_some.mpr ⟨hb, hne, contains_mono hdrawn⟩]
    · exact (drawnInterfaces_sublist catalog e.decl).filter _

theorem Entry.edgeLines_sublist (catalog : κ) (e : Entry) :
    (e.block catalog (Selection.of catalog .publicOnly)).edgeLines <+
      (e.block catalog (Selection.of catalog .publicOrInternal)).edgeLines :=
  (e.edges_sublist catalog).map _

/-! ### Whole diagrams -/

theorem Entry.plainLines_sublist (catalog : κ) (e : Entry) :
    (e.markedLines catalog (Selection.of catalog .publicOnly)).map MarkedLine.plain <+
      (e.markedLines catalog (Selection.of catalog .publicOrInternal)).map MarkedLine.plain := by
  have hbody := sublist_map_of_sublistForall₂ (fun _ _ h => h.1) e.markedBody_narrowing
  have hedges := ((e.edgeLines_sublist catalog).map fun l => (⟨l, []⟩ : MarkedLine)).map
    MarkedLine.plain
  simp only [markedLines, List.map_append, List.map_cons]
  exact (hbody.cons_cons _).append (hedges.cons_cons _)

theorem plainLines_sublist (theme : String) (catalog : κ) :
    (markedLines theme catalog .publicOnly).map MarkedLine.plain <+
      (markedLines theme catalog .publicOrInternal).map MarkedLine.plain := by
  simp only [markedLines, List.map_append, List.map_flatMap]
  have hblocks := List.Sublist.flatMap_right (Selection.of catalog .publicOnly).entries
    fun e _ => e.plainLines_sublist catalog
  have htypes := (entries_sublist catalog).flatMap fun e =>
    (e.markedLines catalog (Selection.of catalog .publicOrInternal)).map MarkedLine.plain
  exact ((List.Sublist.refl _).append (hblocks.trans htypes)).append (List.Sublist.refl _)

/-- **The narrow filter leaves out types, lines, edges and marks, and changes nothing else.** -/
theorem lines_narrowing (theme : String) (catalog : κ) :
    (∀ filter, (markedLines theme catalog filter).map MarkedLine.text =
      (draw theme catalog filter).lines) ∧
    (markedLines theme catalog .publicOnly).map MarkedLine.plain <+
      (markedLines theme catalog .publicOrInternal).map MarkedLine.plain ∧
    (Selection.of catalog .publicOnly).entries <+
      (Selection.of catalog .publicOrInternal).entries ∧
    ∀ e ∈ (Selection.of catalog .publicOnly).entries,
      (e.block catalog (Selection.of catalog .publicOnly)).header =
        (e.block catalog (Selection.of catalog .publicOrInternal)).header ∧
      (∀ filter, (e.markedBody filter).map MarkedLine.text =
        (e.block catalog (Selection.of catalog filter)).body) ∧
      SublistForall₂ MarkedLine.Fewer (e.markedBody .publicOnly)
        (e.markedBody .publicOrInternal) ∧
      (e.block catalog (Selection.of catalog .publicOnly)).edgeLines <+
        (e.block catalog (Selection.of catalog .publicOrInternal)).edgeLines :=
  ⟨text_markedLines theme catalog, plainLines_sublist theme catalog, entries_sublist catalog,
    fun e _ => ⟨rfl, fun filter => e.text_markedBody filter, e.markedBody_narrowing,
      e.edgeLines_sublist catalog⟩⟩

end ClassDiagram
