import ClassDiagram.Proofs.Diagram.Order
import ClassDiagram.Proofs.Symbol.Lookup

/-! # One more declaration

A declaration that is added at the end of a catalog changes three things that all blocks are made
of: what is declared, what is drawn, and what a search finds.  But a block depends on these only at
the names to which its declaration refers (`Entry.block_eq_of_agree`), and two catalogs of which one
has one more declaration agree on all other names.

Hence a repeated name changes nothing, and a new name to which nobody refers brings its own block
and nothing else (`Graph.add_local`). -/

namespace ClassDiagram

variable {κ κ' : Type} [Catalog κ] [Catalog κ']

/-! ### What a block depends on -/

/-- The declaration has `name` as its base or lists it as an interface. -/
def TypeDecl.RefersTo (t : TypeDecl) (name : TypeRef) : Prop :=
  t.base = some name ∨ name ∈ t.interfaces

/-- Two catalogs agree on a name: it is drawn from both or from none, and what it stands for is the
same. -/
structure AgreeOn (filter : Filter) (catalog : κ) (catalog' : κ') (name : TypeRef) : Prop where
  contains_eq : (Selection.of catalog filter).contains name =
    (Selection.of catalog' filter).contains name
  find?_eq : Catalog.find? catalog name = Catalog.find? catalog' name

section agree
variable {filter : Filter} {catalog : κ} {catalog' : κ'} {t : TypeDecl}
  (hagree : ∀ name, t.RefersTo name → name ≠ t.name → AgreeOn filter catalog catalog' name)
include hagree

theorem TypeDecl.drawnBase?_eq_of_agree :
    t.drawnBase? (Selection.of catalog filter) = t.drawnBase? (Selection.of catalog' filter) := by
  unfold drawnBase?
  cases hbase : t.base with
  | none => rfl
  | some base =>
      by_cases hself : base = t.name
      · simp [Option.filter, hself]
      · simp only [Option.filter, (hagree base (.inl hbase) hself).contains_eq]

theorem TypeDecl.drawnInterfaces_eq_of_agree :
    t.drawnInterfaces (Selection.of catalog filter) =
      t.drawnInterfaces (Selection.of catalog' filter) := by
  refine congrArg (firsts id) (List.filter_congr fun i hi => ?_)
  by_cases hself : i = t.name
  · simp [hself]
  · rw [(hagree i (.inr hi) hself).contains_eq]

theorem TypeDecl.implies_eq_of_agree (i : TypeRef) :
    t.implies catalog i = t.implies catalog' i := by
  rw [Bool.eq_iff_iff, implies_iff, implies_iff]
  refine exists_congr fun other => and_congr_right fun hother => and_congr_right fun _ =>
    and_congr_right fun hself => ?_
  rw [(hagree other (.inr hother) hself).find?_eq]

end agree

/-- The block of an entry stays the same while nothing changes about the names to which its
declaration refers. -/
theorem Entry.block_eq_of_agree {filter : Filter} {catalog : κ} {catalog' : κ'} {e : Entry}
    (hagree : ∀ name, e.decl.RefersTo name → name ≠ e.name →
      AgreeOn filter catalog catalog' name) :
    e.block catalog (Selection.of catalog filter) =
      e.block catalog' (Selection.of catalog' filter) := by
  have hedges : e.edges catalog (Selection.of catalog filter) =
      e.edges catalog' (Selection.of catalog' filter) := by
    unfold edges
    rw [TypeDecl.drawnBase?_eq_of_agree hagree, TypeDecl.drawnInterfaces_eq_of_agree hagree]
    simp only [TypeDecl.implies_eq_of_agree hagree]
  unfold block
  rw [hedges]
  rfl

/-! ### Catalogs that grow -/

/-- `catalog'` has one more declaration than `catalog`, at the end, and both find first
declarations. -/
structure Catalog.Grows (catalog : κ) (t : TypeDecl) (catalog' : κ') : Prop where
  types_eq : Catalog.types catalog' = Catalog.types catalog ++ [t]
  firstMatch : Catalog.FirstMatch catalog
  firstMatch' : Catalog.FirstMatch catalog'

namespace Catalog.Grows

variable {catalog : κ} {t : TypeDecl} {catalog' : κ'} (h : Catalog.Grows catalog t catalog')
  (filter : Filter)
include h

theorem firsts_eq_of_declared (hdeclared : ∃ t' ∈ Catalog.types catalog, t'.name = t.name) :
    firsts TypeDecl.name (Catalog.types catalog') =
      firsts TypeDecl.name (Catalog.types catalog) := by
  rw [h.types_eq, firsts_concat, if_pos (List.mem_map.mpr hdeclared), List.append_nil]

theorem entries_of_fresh (hfresh : ∀ t' ∈ Catalog.types catalog, t'.name ≠ t.name) :
    (Selection.of catalog' filter).entries =
      (Selection.of catalog filter).entries ++ (t.entry? filter).toList := by
  have hnew : t.name ∉ (Catalog.types catalog).map TypeDecl.name := by
    rw [List.mem_map]
    rintro ⟨t', ht', hname⟩
    exact hfresh t' ht' hname
  rw [Selection.entries_of, Selection.entries_of, h.types_eq, firsts_concat, if_neg hnew,
    List.filterMap_append]
  cases hentry : t.entry? filter <;> simp [hentry]

theorem find?_eq_of_declared (hdeclared : ∃ t' ∈ Catalog.types catalog, t'.name = t.name)
    (name : String) : Catalog.find? catalog' name = Catalog.find? catalog name := by
  rw [find?_eq_find?_firsts h.firstMatch', find?_eq_find?_firsts h.firstMatch,
    h.firsts_eq_of_declared hdeclared]

/-- Catalogs agree on all names but that of the one more declaration. -/
theorem agreeOn_of_ne (hfresh : ∀ t' ∈ Catalog.types catalog, t'.name ≠ t.name) {name : TypeRef}
    (hne : name ≠ t.name) : AgreeOn filter catalog' catalog name where
  contains_eq := by
    have hnot : (t.entry? filter).toList.any (·.name == name) = false := by
      cases hentry : t.entry? filter with
      | none => rfl
      | some e =>
          obtain ⟨rfl, -⟩ := TypeDecl.entry?_eq_some.mp hentry
          simpa [Entry.name] using hne.symm
    rw [Selection.contains_eq_any, Selection.contains_eq_any, h.entries_of_fresh filter hfresh,
      List.any_append, hnot, Bool.or_false]
  find?_eq := by
    have hnone : [t].find? (·.name == name) = none := by simpa using hne.symm
    rw [h.firstMatch', h.firstMatch, firstDecl?, h.types_eq, List.find?_append, hnone,
      Option.or_none]
    rfl

theorem draw_of_declared (hdeclared : ∃ t' ∈ Catalog.types catalog, t'.name = t.name)
    (theme : String) : draw theme catalog' filter = draw theme catalog filter := by
  refine draw_eq_of_alike theme h.firstMatch' h.firstMatch ?_
  rw [h.firsts_eq_of_declared hdeclared]
  exact List.forall₂_same.mpr fun t _ => TypeDecl.Alike.refl t

/-- The blocks after a new name: those from before, none of which refers to it, and its own. -/
theorem blocks_of_fresh
    (hfresh : ∀ t' ∈ Catalog.types catalog, t'.name ≠ t.name ∧ ¬ t'.RefersTo t.name)
    (theme : String) :
    (draw theme catalog' filter).blocks = (draw theme catalog filter).blocks ++
      (t.entry? filter).toList.map (Entry.block catalog' (Selection.of catalog' filter)) := by
  have hnew : ∀ t' ∈ Catalog.types catalog, t'.name ≠ t.name := fun t' ht' => (hfresh t' ht').1
  have hold : (Selection.of catalog filter).entries.map
        (Entry.block catalog' (Selection.of catalog' filter)) =
      (Selection.of catalog filter).entries.map
        (Entry.block catalog (Selection.of catalog filter)) := by
    refine List.map_congr_left fun e he => Entry.block_eq_of_agree fun name hrefers _ => ?_
    have hdecl : e.decl ∈ Catalog.types catalog :=
      List.mem_of_find?_eq_some (Selection.mem_of.mp he).1
    refine h.agreeOn_of_ne filter hnew fun hname => ?_
    exact (hfresh e.decl hdecl).2 (hname ▸ hrefers)
  show (Selection.of catalog' filter).entries.map _ =
    (Selection.of catalog filter).entries.map _ ++ _
  rw [h.entries_of_fresh filter hnew, List.map_append, hold]

end Catalog.Grows

/-! ### Graphs -/

namespace Graph

theorem grows_add {g g' : Graph} {t : TypeDecl} (hindexed : g.Indexed) (hadd : g.add t = .ok g') :
    Catalog.Grows g t g' where
  types_eq := (add_eq_ok hadd).2.1
  firstMatch := hindexed.firstMatch
  firstMatch' := (hindexed.add hadd).firstMatch

/-- **Adding a declaration is local.**  A name that is declared already changes neither the text nor
what is found under any name.  A new name to which no declaration refers puts the lines of its block
and of its edges, if it is drawn, right before the last line, and leaves the other lines alone. -/
theorem add_local (steps : List Step) (t : TypeDecl) (hname : t.name ≠ "") :
    ∃ g', (run steps).add t = .ok g' ∧
      ((∃ t' ∈ (run steps).toList, t'.name = t.name) →
        (∀ name, g'.find? name = (run steps).find? name) ∧
        ∀ theme filter, render theme g' filter = render theme (run steps) filter) ∧
      ((∀ t' ∈ (run steps).toList, t'.name ≠ t.name ∧ ¬ t'.RefersTo t.name) →
        ∀ theme filter, ∃ before inserted,
          render theme (run steps) filter = Text.unlines (before ++ ["@enduml"]) ∧
          render theme g' filter = Text.unlines (before ++ inserted ++ ["@enduml"]) ∧
          (t.Drawable filter → ∃ shape, t.shape? = some shape ∧
            inserted = (Entry.block g' (Selection.of g' filter) ⟨t, shape⟩).lines) ∧
          (¬ t.Drawable filter → inserted = [])) := by
  obtain ⟨g', hadd⟩ := (run steps).exists_add hname
  have hgrows := grows_add (indexed_run steps) hadd
  refine ⟨g', hadd, fun hdeclared => ⟨hgrows.find?_eq_of_declared hdeclared, ?_⟩,
    fun hfresh theme filter => ?_⟩
  · intro theme filter
    exact congrArg Diagram.text (hgrows.draw_of_declared filter hdeclared theme)
  · let added := (t.entry? filter).toList.map (Entry.block g' (Selection.of g' filter))
    refine ⟨Diagram.opening theme ++ (draw theme (run steps) filter).blocks.flatMap Block.lines,
      added.flatMap Block.lines, rfl, ?_, fun hdrawable => ?_, fun hnot => ?_⟩
    · have hblocks := hgrows.blocks_of_fresh filter hfresh theme
      show Text.unlines (Diagram.opening theme ++
        (draw theme g' filter).blocks.flatMap Block.lines ++ [Diagram.ending]) = _
      rw [hblocks, List.flatMap_append, ← List.append_assoc]
      rfl
    · obtain ⟨shape, hshape, hentry⟩ := hdrawable.exists_entry
      refine ⟨shape, hshape, ?_⟩
      simp [added, hentry]
    · simp [added, TypeDecl.entry?_eq_none hnot]

/-- A graph that declares a name twice and refers to an interface that it does not declare. -/
def quay : List Step :=
  [.act (.add { name := "Pier", interfaces := ["Moored", "Pier"] }),
    .act (.add { name := "" }),
    .act (.add { name := "Pier", kind := .enumType })]

/-- A type that the graph does not refer to. -/
def barge : TypeDecl :=
  { name := "Barge", isAbstract := true, base := some "Pier",
    members := [.field { name := "crew", type := "int" },
      .field { name := "log", type := "Book", visibility := .priv }] }

theorem add_local_quay :
    (∃ g', (run quay).add { name := "Pier", base := some "Quay" } = .ok g' ∧
      render defaultTheme g' .publicOnly = render defaultTheme (run quay) .publicOnly) ∧
    ∃ g', (run quay).add barge = .ok g' ∧
      ∃ before,
        render defaultTheme (run quay) .publicOnly = Text.unlines (before ++ ["@enduml"]) ∧
        render defaultTheme g' .publicOnly = Text.unlines (before ++
          ["abstract class Barge \x7b", "+int crew", "\x7d", "abstract class Barge extends Pier"] ++
          ["@enduml"]) := by
  have hlist : (run quay).toList = [{ name := "Pier", interfaces := ["Moored", "Pier"] },
    { name := "Pier", kind := .enumType }] := by decide +kernel
  have hblock : ((run quay).add barge).map
      (fun g => (Entry.block g (Selection.of g .publicOnly) ⟨barge, .classBlock⟩).lines) =
      .ok ["abstract class Barge \x7b", "+int crew", "\x7d",
        "abstract class Barge extends Pier"] := by decide +kernel
  obtain ⟨g₁, hadd₁, hdeclared, -⟩ :=
    add_local quay { name := "Pier", base := some "Quay" } (by decide)
  obtain ⟨g₂, hadd₂, -, hfresh⟩ := add_local quay barge (by decide)
  refine ⟨⟨g₁, hadd₁, ?_⟩, g₂, hadd₂, ?_⟩
  · refine (hdeclared ⟨{ name := "Pier", kind := .enumType }, ?_, rfl⟩).2 _ _
    rw [hlist]
    decide
  · have hnew : ∀ t' ∈ (run quay).toList, t'.name ≠ barge.name ∧ ¬ t'.RefersTo barge.name := by
      rw [hlist]
      simp [TypeDecl.RefersTo, barge]
    obtain ⟨before, inserted, hbefore, hafter, hdrawn, -⟩ := hfresh hnew defaultTheme .publicOnly
    obtain ⟨shape, hshape, hlines⟩ := hdrawn ⟨by decide, by decide⟩
    obtain rfl : Shape.classBlock = shape := Option.some.inj hshape
    rw [hadd₂] at hblock
    have hinserted := hlines.trans (Except.ok.inj hblock)
    exact ⟨before, hbefore, hinserted ▸ hafter⟩

end Graph

end ClassDiagram
