import ClassDiagram.Proofs.Diagram.Reduction

/-! # In order of first appearance

What a diagram draws is fixed by two things: which of the candidates are drawn, and that they stand
in the order in which they first appear.  Both are said here without the scan that finds them.

For the types of a selection the candidates are the declarations with none of their name before them
(`TypeDecl.FirstIn`), and those are drawn that are `Drawable`.  If the catalog finds first
declarations, a name is drawn exactly if the search for it finds something drawable
(`selection_of_search`).  For the edges of a type the candidates are its base and its list of
interfaces (`edges_in_order`); nothing is asked of the catalog, whose references may form
cycles. -/

namespace ClassDiagram

variable {κ : Type} [Catalog κ]

/-! ### First declarations -/

/-- `t` is one of the declarations, and none before it has its name. -/
def TypeDecl.FirstIn (types : List TypeDecl) (t : TypeDecl) : Prop :=
  ∃ before after, types = before ++ t :: after ∧ ∀ t' ∈ before, t'.name ≠ t.name

/-- What a filter draws: classes, interfaces and enumerations that it allows. -/
structure TypeDecl.Drawable (filter : Filter) (t : TypeDecl) : Prop where
  kind_mem : t.kind ∈ [TypeKind.classType, TypeKind.interfaceType, TypeKind.enumType]
  allowed : filter.allows t.visibility = true

theorem firstDecl?_eq_some {types : List TypeDecl} {name : String} {t : TypeDecl} :
    firstDecl? types name = some t ↔ t.name = name ∧ t.FirstIn types := by
  rw [firstDecl?, List.find?_eq_some_iff_append, beq_iff_eq]
  refine and_congr_right fun hname => ?_
  simp [TypeDecl.FirstIn, hname]

/-- The kinds that are drawn are those that have a shape. -/
theorem TypeDecl.kind_mem_iff {t : TypeDecl} :
    t.kind ∈ [TypeKind.classType, TypeKind.interfaceType, TypeKind.enumType] ↔
      ∃ shape, t.shape? = some shape := by
  unfold shape?
  cases t.kind <;> simp [TypeKind.shape?]

theorem TypeDecl.drawable_of_entry {filter : Filter} {t : TypeDecl} {e : Entry}
    (h : t.entry? filter = some e) : t.Drawable filter := by
  obtain ⟨rfl, hshape, hallows⟩ := entry?_eq_some.mp h
  exact ⟨kind_mem_iff.mpr ⟨e.shape, hshape⟩, hallows⟩

theorem TypeDecl.Drawable.exists_entry {filter : Filter} {t : TypeDecl} (h : t.Drawable filter) :
    ∃ shape, t.shape? = some shape ∧ t.entry? filter = some ⟨t, shape⟩ := by
  obtain ⟨shape, hshape⟩ := kind_mem_iff.mp h.kind_mem
  exact ⟨shape, hshape, entry?_eq_some.mpr ⟨rfl, hshape, h.allowed⟩⟩

theorem TypeDecl.entry?_eq_none {filter : Filter} {t : TypeDecl} (h : ¬ t.Drawable filter) :
    t.entry? filter = none :=
  Option.eq_none_iff_forall_ne_some.mpr fun _ he => h (drawable_of_entry he)

theorem Shape.keyword_ne_empty (shape : Shape) (isAbstract : Bool) :
    shape.keyword isAbstract ≠ "" := by
  cases shape <;> cases isAbstract <;> decide

namespace Selection

variable {catalog : κ} {filter : Filter}

theorem mem_of_iff_firstIn {e : Entry} :
    e ∈ (of catalog filter).entries ↔
      e.decl.FirstIn (Catalog.types catalog) ∧ e.decl.Drawable filter ∧
        e.decl.shape? = some e.shape := by
  rw [mem_of, firstDecl?_eq_some]
  constructor
  · rintro ⟨⟨-, hfirst⟩, hshape, hallows⟩
    exact ⟨hfirst, ⟨TypeDecl.kind_mem_iff.mpr ⟨e.shape, hshape⟩, hallows⟩, hshape⟩
  · rintro ⟨hfirst, hdrawable, hshape⟩
    exact ⟨⟨rfl, hfirst⟩, hshape, hdrawable.allowed⟩

theorem pairwise_entries (catalog : κ) (filter : Filter) :
    (of catalog filter).entries.Pairwise fun e e' =>
      (Catalog.types catalog).findIdx (·.name == e.name) <
        (Catalog.types catalog).findIdx (·.name == e'.name) := by
  have hfirsts := pairwise_firsts TypeDecl.name (Catalog.types catalog)
  rw [entries_of]
  refine List.pairwise_filterMap.mpr (hfirsts.imp fun {t t'} hlt e he e' he' => ?_)
  obtain ⟨rfl, -⟩ := TypeDecl.entry?_eq_some.mp he
  obtain ⟨rfl, -⟩ := TypeDecl.entry?_eq_some.mp he'
  exact hlt

/-- Where first declarations are found, a name is drawn if what is found under it can be drawn. -/
theorem contains_iff_find? (hmatch : Catalog.FirstMatch catalog) {name : String} :
    (of catalog filter).contains name = true ↔
      ∃ t, Catalog.find? catalog name = some t ∧ t.Drawable filter := by
  rw [contains_iff]
  constructor
  · rintro ⟨e, he, rfl⟩
    exact ⟨e.decl, find?_of_mem hmatch he, (mem_of_iff_firstIn.mp he).2.1⟩
  · rintro ⟨t, hfound, hdrawable⟩
    rw [hmatch, firstDecl?_eq_some] at hfound
    obtain ⟨rfl, hfirst⟩ := hfound
    obtain ⟨shape, hshape, -⟩ := hdrawable.exists_entry
    exact ⟨⟨t, shape⟩, mem_of_iff_firstIn.mpr ⟨hfirst, hdrawable, hshape⟩, rfl⟩

end Selection

/-- **A selection holds the first declarations that can be drawn, as they first appear**, each with
its own shape, and agrees with the search for every name. -/
theorem selection_of_search (catalog : κ) (filter : Filter) (hmatch : Catalog.FirstMatch catalog) :
    (∀ e, e ∈ (Selection.of catalog filter).entries ↔
      e.decl.FirstIn (Catalog.types catalog) ∧ e.decl.Drawable filter ∧
        e.decl.shape? = some e.shape) ∧
    ((Selection.of catalog filter).entries.Pairwise fun e e' =>
      (Catalog.types catalog).findIdx (·.name == e.name) <
        (Catalog.types catalog).findIdx (·.name == e'.name)) ∧
    (∀ e ∈ (Selection.of catalog filter).entries,
      e.decl.keyword? = some e.keyword ∧ e.keyword ≠ "") ∧
    ∀ name,
      ((Selection.of catalog filter).contains name = true ↔
        ∃ e ∈ (Selection.of catalog filter).entries, e.name = name) ∧
      ((Selection.of catalog filter).contains name = true ↔
        ∃ t, Catalog.find? catalog name = some t ∧ t.Drawable filter) ∧
      ∀ e ∈ (Selection.of catalog filter).entries, e.name = name →
        Catalog.find? catalog name = some e.decl := by
  refine ⟨fun _ => Selection.mem_of_iff_firstIn, Selection.pairwise_entries catalog filter,
    fun e he => ⟨?_, e.shape.keyword_ne_empty _⟩, fun name => ⟨Selection.contains_iff,
    Selection.contains_iff_find? hmatch, ?_⟩⟩
  · rw [TypeDecl.keyword?, (Selection.mem_of_iff_firstIn.mp he).2.2]
    rfl
  · rintro e he rfl
    exact find?_of_mem hmatch he

/-- Declarations of which some have no name, some have no shape, and some come too late. -/
def flotsam : List TypeDecl :=
  [{ name := "Crate", kind := .structType },
    { name := "", kind := .enumType },
    { name := "Crate" },
    { name := "Plank", visibility := .priv },
    { name := "Rope", isAbstract := true },
    { name := "", kind := .interfaceType },
    { name := "Plank" }]

theorem selection_of_search_flotsam :
    Catalog.FirstMatch flotsam ∧
      (Selection.of flotsam .publicOnly).contains "Plank" = false ∧
      ((Selection.of flotsam .publicOnly).contains "" = true ↔
        ∃ t, Catalog.find? flotsam "" = some t ∧ t.Drawable .publicOnly) := by
  have hmatch := firstMatch_list flotsam
  have hsearch := selection_of_search flotsam .publicOnly hmatch
  exact ⟨hmatch, by decide, (hsearch.2.2.2 "").2.1⟩

/-! ### Edges of one type -/

theorem TypeDecl.pairwise_drawnInterfaces (selection : Selection) (t : TypeDecl) :
    (t.drawnInterfaces selection).Pairwise fun i i' =>
      t.interfaces.idxOf i < t.interfaces.idxOf i' := by
  rw [drawnInterfaces, firsts_filter]
  exact (pairwise_firsts id t.interfaces).filter _

/-- **The edges of a type**: first the one to its base, if that is another drawn type, then those to
the other drawn types among its interfaces that no third interface lists, each once and in the order
in which they are first listed.  An enumeration has none. -/
theorem edges_in_order (catalog : κ) (filter : Filter) (e : Entry) :
    (e.shape = .enumBlock → e.edges catalog (Selection.of catalog filter) = []) ∧
    (e.shape ≠ .enumBlock →
      ∃ (base : Option TypeRef) (targets : List TypeRef),
        e.edges catalog (Selection.of catalog filter) =
          base.toList.map (⟨e.name, ·, .extension⟩) ++
            targets.map (⟨e.name, ·, .implementation⟩) ∧
        (∀ b, base = some b ↔
          e.decl.base = some b ∧ b ≠ e.name ∧
            (Selection.of catalog filter).contains b = true) ∧
        (∀ i, i ∈ targets ↔
          i ∈ e.decl.interfaces ∧ i ≠ e.name ∧
            (Selection.of catalog filter).contains i = true ∧
            ¬ ∃ j ∈ e.decl.interfaces, j ≠ i ∧ j ≠ e.name ∧
              ∃ d, Catalog.find? catalog j = some d ∧ i ∈ d.interfaces) ∧
        targets.Pairwise fun i i' =>
          e.decl.interfaces.idxOf i < e.decl.interfaces.idxOf i') := by
  refine ⟨Entry.edges_enum, fun hshape => ⟨_, _, Entry.edges_eq hshape, ?_, fun i => ?_, ?_⟩⟩
  · exact fun b => TypeDecl.drawnBase?_eq_some
  · rw [List.mem_filter, TypeDecl.mem_drawnInterfaces, Bool.not_eq_true', ← Bool.not_eq_true,
      TypeDecl.implies_iff, and_assoc, and_assoc]
    rfl
  · exact (e.decl.pairwise_drawnInterfaces _).filter _

/-- A sloop that lists itself, lists an interface twice, and lists a mast. -/
def sloop : Entry where
  decl := { name := "Sloop", base := some "Boat",
            interfaces := ["Sail", "Keel", "Mast", "Sloop", "Keel"] }
  shape := .classBlock

/-- The mast of the sloop is not drawn, but brings in the sail, and the sail lists the mast. -/
def rigging : List TypeDecl :=
  [sloop.decl,
    { name := "Boat" },
    { name := "Mast", kind := .structType, interfaces := ["Sail"] },
    { name := "Sail", kind := .interfaceType, interfaces := ["Mast", "Sail"] },
    { name := "Keel", kind := .interfaceType, interfaces := ["Keel"] }]

theorem edges_in_order_rigging :
    sloop ∈ (Selection.of rigging .publicOnly).entries ∧ sloop.shape ≠ .enumBlock ∧
      ∃ (base : Option TypeRef) (targets : List TypeRef),
        sloop.edges rigging (Selection.of rigging .publicOnly) =
          base.toList.map (⟨"Sloop", ·, .extension⟩) ++
            targets.map (⟨"Sloop", ·, .implementation⟩) ∧
        base = some "Boat" ∧ "Keel" ∈ targets ∧ "Sail" ∉ targets := by
  have hshape : sloop.shape ≠ .enumBlock := by decide
  obtain ⟨base, targets, hedges, hbase, htargets, -⟩ :=
    (edges_in_order rigging .publicOnly sloop).2 hshape
  refine ⟨by decide, hshape, base, targets, hedges, (hbase "Boat").mpr (by decide), ?_, ?_⟩
  · refine (htargets "Keel").mpr ⟨by decide, by decide, by decide, ?_⟩
    exact mt TypeDecl.implies_iff.mpr (by decide)
  · intro hsail
    have hnot := ((htargets "Sail").mp hsail).2.2.2
    exact hnot ⟨"Mast", by decide, by decide, by decide, _, rfl, by decide⟩

end ClassDiagram
