import ClassDiagram.Proofs.Diagram.Hiding
import ClassDiagram.Proofs.Diagram.Reduction

/-! # Malformed references

A reference may be malformed: it leads back to its own type, it leads to a name that nobody
declares, or it repeats an earlier one.  `TypeDecl.tidied` takes such references away, and `Tidied`
is a catalog seen without them.  Interfaces are read twice, as targets of the edges of their own
type and as evidence against edges of other types; in neither role do malformed ones count, so the
text of a catalog stays the same without them (`render_tidied`).

It is enough that a catalog answers for the names that it declares (`Catalog.Answers`).  A catalog
that finds first declarations does (`Catalog.FirstMatch.answers`). -/

namespace ClassDiagram

variable {κ : Type} [Catalog κ]

/-! ### Declared names -/

/-- Whether there is a declaration of that name. -/
def Catalog.declares (catalog : κ) (name : TypeRef) : Bool :=
  (Catalog.types catalog).any (·.name == name)

/-- A name is found exactly if it is declared, and then by a declaration of that name. -/
structure Catalog.Answers (catalog : κ) : Prop where
  name_eq : ∀ name t, Catalog.find? catalog name = some t → t.name = name
  isSome_eq : ∀ name, (Catalog.find? catalog name).isSome = Catalog.declares catalog name

theorem Catalog.FirstMatch.answers {catalog : κ} (h : Catalog.FirstMatch catalog) :
    Catalog.Answers catalog where
  name_eq name t ht := by
    rw [h, firstDecl?] at ht
    simpa using List.find?_some ht
  isSome_eq name := by
    rw [h, firstDecl?, Catalog.declares, List.isSome_find?]

/-- A drawn name is declared. -/
theorem declares_of_contains {catalog : κ} {filter : Filter} {name : TypeRef}
    (h : (Selection.of catalog filter).contains name = true) :
    Catalog.declares catalog name = true := by
  obtain ⟨e, he, rfl⟩ := Selection.contains_iff.mp h
  have hfirst := (Selection.mem_of.mp he).1
  exact List.any_eq_true.mpr ⟨e.decl, List.mem_of_find?_eq_some hfirst, beq_self_eq_true _⟩

/-! ### Taking malformed references away -/

namespace TypeDecl

/-- Whether a reference of the type leads to another declared type. -/
def leadsOn (declared : TypeRef → Bool) (t : TypeDecl) (name : TypeRef) : Bool :=
  name != t.name && declared name

/-- The declaration without its malformed references: the base is kept only if it leads on, and of
the interfaces that lead on each is kept once. -/
def tidied (declared : TypeRef → Bool) (t : TypeDecl) : TypeDecl :=
  { t with
    base := t.base.filter (t.leadsOn declared)
    interfaces := firsts id (t.interfaces.filter (t.leadsOn declared)) }

variable {declared : TypeRef → Bool} {t : TypeDecl}

theorem leadsOn_iff {name : TypeRef} :
    t.leadsOn declared name = true ↔ name ≠ t.name ∧ declared name = true := by
  simp [leadsOn]

theorem mem_interfaces_tidied {i : TypeRef} :
    i ∈ (t.tidied declared).interfaces ↔ i ∈ t.interfaces ∧ i ≠ t.name ∧ declared i = true := by
  rw [tidied, mem_firsts_id, List.mem_filter, leadsOn_iff]

end TypeDecl

/-- A catalog, seen without malformed references. -/
structure Tidied (κ : Type) where
  catalog : κ

/-- The declarations of a catalog without malformed references. -/
def tidiedTypes (catalog : κ) : List TypeDecl :=
  (Catalog.types catalog).map (TypeDecl.tidied (Catalog.declares catalog))

instance : Catalog (Tidied κ) where
  types c := tidiedTypes c.catalog
  find? c name :=
    (Catalog.find? c.catalog name).map (TypeDecl.tidied (Catalog.declares c.catalog))

/-- Where first declarations are found, they are also found without malformed references. -/
theorem firstMatch_tidied {catalog : κ} (h : Catalog.FirstMatch catalog) :
    Catalog.FirstMatch (Tidied.mk catalog) := by
  intro name
  show (Catalog.find? catalog name).map _ = (tidiedTypes catalog).find? _
  rw [tidiedTypes, List.find?_map, h]
  rfl

/-! ### Nothing drawn changes -/

/-- The entry of a declaration without malformed references. -/
def Entry.tidied (declared : TypeRef → Bool) (e : Entry) : Entry :=
  { e with decl := e.decl.tidied declared }

theorem TypeDecl.entry?_tidied (declared : TypeRef → Bool) (filter : Filter) (t : TypeDecl) :
    TypeDecl.entry? filter (t.tidied declared) =
      (t.entry? filter).map (Entry.tidied declared) := by
  have hshape_eq : (t.tidied declared).shape? = t.shape? := rfl
  have hdrawn_eq : (t.tidied declared).drawn filter = t.drawn filter := rfl
  cases hdrawn : t.drawn filter with
  | false =>
      rw [entry?_of_not_drawn hdrawn, entry?_of_not_drawn (hdrawn_eq.trans hdrawn)]
      rfl
  | true =>
      obtain ⟨shape, hshape⟩ := Option.isSome_iff_exists.mp (Bool.and_eq_true_iff.mp hdrawn).1
      rw [entry?_of_drawn hshape hdrawn,
        entry?_of_drawn (hshape_eq.trans hshape) (hdrawn_eq.trans hdrawn)]
      rfl

theorem entries_tidied (catalog : κ) (filter : Filter) :
    (Selection.of (Tidied.mk catalog) filter).entries =
      (Selection.of catalog filter).entries.map (Entry.tidied (Catalog.declares catalog)) := by
  have htypes : Catalog.types (Tidied.mk catalog) =
      (Catalog.types catalog).map (TypeDecl.tidied (Catalog.declares catalog)) := rfl
  rw [Selection.entries_of, Selection.entries_of, htypes,
    firsts_map (TypeDecl.tidied (Catalog.declares catalog)) (fun _ => rfl), List.filterMap_map,
    List.map_filterMap]
  exact List.filterMap_congr fun t _ => t.entry?_tidied _ filter

theorem contains_tidied (catalog : κ) (filter : Filter) (name : TypeRef) :
    (Selection.of (Tidied.mk catalog) filter).contains name =
      (Selection.of catalog filter).contains name := by
  rw [Selection.contains_eq_any, Selection.contains_eq_any, entries_tidied, List.any_map]
  rfl

section edges
variable {catalog : κ} {filter : Filter}

theorem drawnBase?_tidied (t : TypeDecl) :
    (t.tidied (Catalog.declares catalog)).drawnBase? (Selection.of (Tidied.mk catalog) filter) =
      t.drawnBase? (Selection.of catalog filter) := by
  refine Option.ext fun base => ?_
  rw [TypeDecl.drawnBase?_eq_some, TypeDecl.drawnBase?_eq_some, contains_tidied, TypeDecl.tidied,
    Option.filter_eq_some_iff, TypeDecl.leadsOn_iff]
  refine ⟨fun ⟨⟨hbase, _⟩, hne, hdrawn⟩ => ⟨hbase, hne, hdrawn⟩, fun ⟨hbase, hne, hdrawn⟩ => ?_⟩
  exact ⟨⟨hbase, hne, declares_of_contains hdrawn⟩, hne, hdrawn⟩

/-- What is drawn leads on, so it makes no difference whether the others have gone before. -/
theorem drawnInterfaces_tidied (t : TypeDecl) :
    (t.tidied (Catalog.declares catalog)).drawnInterfaces
        (Selection.of (Tidied.mk catalog) filter) =
      t.drawnInterfaces (Selection.of catalog filter) := by
  have hfilter : (t.interfaces.filter (t.leadsOn (Catalog.declares catalog))).filter
        (fun i => i != t.name && (Selection.of catalog filter).contains i) =
      t.interfaces.filter fun i => i != t.name && (Selection.of catalog filter).contains i := by
    rw [List.filter_filter]
    refine List.filter_congr fun i _ => ?_
    cases hdrawn : (Selection.of catalog filter).contains i with
    | false => simp
    | true => simp [TypeDecl.leadsOn, declares_of_contains hdrawn]
  unfold TypeDecl.drawnInterfaces
  simp only [contains_tidied]
  calc firsts id ((t.tidied (Catalog.declares catalog)).interfaces.filter _)
      _ = firsts id (firsts id ((t.interfaces.filter (t.leadsOn _)).filter _)) := by
        rw [TypeDecl.tidied, ← firsts_filter]
      _ = _ := by rw [firsts_firsts, hfilter]

/-- A drawn interface is brought in by the same interfaces as before: one that leads nowhere finds
no declaration, and one that lists itself does not bring itself in. -/
theorem implies_tidied (hanswers : Catalog.Answers catalog) (t : TypeDecl) {i : TypeRef}
    (hdrawn : (Selection.of catalog filter).contains i = true) :
    (t.tidied (Catalog.declares catalog)).implies (Tidied.mk catalog) i = t.implies catalog i := by
  rw [Bool.eq_iff_iff, TypeDecl.implies_iff, TypeDecl.implies_iff]
  have hdeclared := declares_of_contains hdrawn
  refine ⟨?_, ?_⟩
  · rintro ⟨other, hother, hne, hself, d', hfound, hlisted⟩
    obtain ⟨d, hd, rfl⟩ := Option.map_eq_some_iff.mp hfound
    exact ⟨other, (TypeDecl.mem_interfaces_tidied.mp hother).1, hne, hself, d, hd,
      (TypeDecl.mem_interfaces_tidied.mp hlisted).1⟩
  · rintro ⟨other, hother, hne, hself, d, hd, hlisted⟩
    have hfound : Catalog.declares catalog other = true := by
      rw [← hanswers.isSome_eq, hd]
      rfl
    have hname : i ≠ d.name := fun h => hne ((hanswers.name_eq other d hd).symm.trans h.symm)
    exact ⟨other, TypeDecl.mem_interfaces_tidied.mpr ⟨hother, hself, hfound⟩, hne, hself, _,
      congrArg (Option.map _) hd, TypeDecl.mem_interfaces_tidied.mpr ⟨hlisted, hname, hdeclared⟩⟩

theorem block_tidied (hanswers : Catalog.Answers catalog) (e : Entry) :
    (e.tidied (Catalog.declares catalog)).block (Tidied.mk catalog)
        (Selection.of (Tidied.mk catalog) filter) =
      e.block catalog (Selection.of catalog filter) := by
  have hinterfaces : ((e.decl.tidied (Catalog.declares catalog)).drawnInterfaces
        (Selection.of (Tidied.mk catalog) filter)).filter
        (!(e.decl.tidied (Catalog.declares catalog)).implies (Tidied.mk catalog) ·) =
      (e.decl.drawnInterfaces (Selection.of catalog filter)).filter
        (!e.decl.implies catalog ·) := by
    rw [drawnInterfaces_tidied]
    refine List.filter_congr fun i hi => ?_
    rw [implies_tidied hanswers e.decl (TypeDecl.mem_drawnInterfaces.mp hi).2.2]
  have hedges : (e.tidied (Catalog.declares catalog)).edges (Tidied.mk catalog)
        (Selection.of (Tidied.mk catalog) filter) =
      e.edges catalog (Selection.of catalog filter) := by
    have hshape_eq : (e.tidied (Catalog.declares catalog)).shape = e.shape := rfl
    by_cases hshape : e.shape = .enumBlock
    · rw [Entry.edges_enum hshape, Entry.edges_enum (hshape_eq.trans hshape)]
    · rw [Entry.edges_eq hshape, Entry.edges_eq (hshape_eq ▸ hshape), Entry.tidied, hinterfaces,
        drawnBase?_tidied]
      rfl
  unfold Entry.block
  rw [hedges]
  rfl

end edges

theorem draw_tidied (theme : String) (filter : Filter) {catalog : κ}
    (hanswers : Catalog.Answers catalog) :
    draw theme (Tidied.mk catalog) filter = draw theme catalog filter := by
  refine congrArg (Diagram.mk theme) ?_
  simp only [entries_tidied, List.map_map]
  exact List.map_congr_left fun e _ => block_tidied hanswers e

/-- **Malformed references are left out, and nothing else changes**: without them the text is the
same, and so is that of every catalog which finds first declarations and lists those of this one
without malformed references. -/
theorem render_tidied (theme : String) (filter : Filter) (catalog : κ)
    (hanswers : Catalog.Answers catalog) :
    render theme (Tidied.mk catalog) filter = render theme catalog filter ∧
    (Catalog.FirstMatch catalog → ∀ {κ' : Type} [Catalog κ'] (catalog' : κ'),
      Catalog.FirstMatch catalog' → Catalog.types catalog' = tidiedTypes catalog →
      render theme catalog' filter = render theme catalog filter) := by
  have hdraw := draw_tidied theme filter hanswers
  refine ⟨congrArg Diagram.text hdraw, fun hmatch _ _ catalog' hmatch' htypes => ?_⟩
  refine congrArg Diagram.text (Eq.trans ?_ hdraw)
  refine draw_eq_of_alike theme hmatch' (firstMatch_tidied hmatch) ?_
  rw [htypes]
  exact List.forall₂_same.mpr fun t _ => TypeDecl.Alike.refl t

/-- Boats that list themselves, list an interface twice, and refer to what is not declared; two of
their interfaces list each other. -/
def moorings : List TypeDecl :=
  [{ name := "Ferry", base := some "Ship", interfaces := ["Afloat", "Ferry", "Towed", "Afloat"] },
    { name := "Afloat", kind := .interfaceType, interfaces := ["Towed", "Afloat"] },
    { name := "Towed", kind := .interfaceType, interfaces := ["Anchor", "Afloat", "Towed"] },
    { name := "Raft", base := some "Raft", interfaces := ["Towed", "Towed"] }]

theorem render_tidied_moorings :
    Catalog.Answers moorings ∧ tidiedTypes moorings ≠ moorings ∧
      render defaultTheme (tidiedTypes moorings) .publicOnly =
        render defaultTheme moorings .publicOnly := by
  have hmatch := firstMatch_list moorings
  have htidied := render_tidied defaultTheme .publicOnly moorings hmatch.answers
  exact ⟨hmatch.answers, by decide,
    htidied.2 hmatch (tidiedTypes moorings) (firstMatch_list _) rfl⟩

end ClassDiagram
