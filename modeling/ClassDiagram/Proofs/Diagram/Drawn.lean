import ClassDiagram.Diagram.Document
import ClassDiagram.Proofs.Firsts
import Mathlib.Data.List.Nodup

/-! # What is drawn

An entry is drawn if the search for its name finds its declaration, the declaration has a shape and
the filter allows it (`Selection.mem_of`).  An edge leaves an entry that is not an enumeration and
leads to another drawn name which the entry's declaration reports (`Entry.mem_edges`).

Hence no edge dangles: `edges_attached` says that a diagram has one block for each entry, that
each edge leads from its block to the only block of its target, and how the edges of a block are
ordered. -/

namespace ClassDiagram

open scoped List

variable {κ : Type} [Catalog κ] {catalog : κ} {filter : Filter}

/-! ### Entries -/

theorem TypeDecl.entry?_eq_some {t : TypeDecl} {e : Entry} :
    t.entry? filter = some e ↔
      t = e.decl ∧ e.decl.shape? = some e.shape ∧ filter.allows e.decl.visibility = true := by
  obtain ⟨decl, shape⟩ := e
  unfold entry?
  cases hshape : t.shape? with
  | none =>
      refine ⟨nofun, ?_⟩
      rintro ⟨rfl, h, -⟩
      exact absurd (hshape.symm.trans h) nofun
  | some shape' =>
      by_cases hallows : filter.allows t.visibility = true
      · simp only [if_pos hallows, Option.some.injEq, Entry.mk.injEq]
        refine ⟨?_, ?_⟩
        · rintro ⟨rfl, rfl⟩
          exact ⟨rfl, hshape, hallows⟩
        · rintro ⟨rfl, h, -⟩
          exact ⟨rfl, Option.some.inj (hshape.symm.trans h)⟩
      · simp only [if_neg hallows]
        refine ⟨nofun, ?_⟩
        rintro ⟨rfl, -, h⟩
        exact absurd h hallows

namespace Selection

/-- Between two declarations, the gathered names are the gathered entries' own, and what is still to
come adds the entries of the first declarations of the names that have not been met. -/
theorem Gathered.foldl_add (types : List TypeDecl) (g : Gathered)
    (hnames : g.names = (g.entries.map Entry.name).reverse) :
    let entries := g.entries ++ (firstsFrom TypeDecl.name g.seen types).filterMap
      (TypeDecl.entry? filter)
    (types.foldl (add filter) g).entries = entries ∧
      (types.foldl (add filter) g).names = (entries.map Entry.name).reverse := by
  induction types generalizing g with
  | nil => simp [firstsFrom, hnames]
  | cons t types ih =>
      rw [List.foldl_cons, firstsFrom, add]
      by_cases hseen : t.name ∈ g.seen
      · rw [if_pos hseen, if_pos hseen]
        exact ih g hnames
      · rw [if_neg hseen, if_neg hseen, List.filterMap_cons]
        cases hentry : t.entry? filter with
        | none => exact ih _ hnames
        | some e =>
            obtain ⟨rfl, -⟩ := TypeDecl.entry?_eq_some.mp hentry
            have hnames' : e.name :: g.names = ((g.entries ++ [e]).map Entry.name).reverse := by
              rw [hnames, List.map_append, List.reverse_append]
              rfl
            have hrest := ih ⟨e.name :: g.seen, e.name :: g.names, g.entries ++ [e]⟩ hnames'
            rwa [List.append_assoc] at hrest

/-- The entries are those of the first declarations that are drawn. -/
theorem entries_of (catalog : κ) (filter : Filter) :
    (of catalog filter).entries =
      (firsts TypeDecl.name (Catalog.types catalog)).filterMap (TypeDecl.entry? filter) :=
  (Gathered.foldl_add (Catalog.types catalog) {} rfl).1

/-- The names that the walk collects apart are those of the entries. -/
theorem names_of (catalog : κ) (filter : Filter) :
    (of catalog filter).names = ((of catalog filter).entries.map Entry.name).reverse := by
  rw [entries_of]
  exact (Gathered.foldl_add (Catalog.types catalog) {} rfl).2

/-- What is drawn is the first declaration of its name, has a shape and passes the filter. -/
theorem mem_of {e : Entry} :
    e ∈ (of catalog filter).entries ↔
      firstDecl? (Catalog.types catalog) e.name = some e.decl ∧
        e.decl.shape? = some e.shape ∧ filter.allows e.decl.visibility = true := by
  simp only [entries_of, List.mem_filterMap, TypeDecl.entry?_eq_some]
  refine ⟨?_, fun ⟨hfirst, h⟩ => ⟨e.decl, mem_firsts.mpr hfirst, rfl, h⟩⟩
  rintro ⟨t, ht, rfl, h⟩
  exact ⟨mem_firsts.mp ht, h⟩

/-- An entry is known by its name. -/
theorem eq_of_name_eq {e e' : Entry} (he : e ∈ (of catalog filter).entries)
    (he' : e' ∈ (of catalog filter).entries) (hname : e.name = e'.name) : e = e' := by
  obtain ⟨hfirst, hshape, -⟩ := mem_of.mp he
  obtain ⟨hfirst', hshape', -⟩ := mem_of.mp he'
  have hdecl : e.decl = e'.decl := Option.some.inj (hfirst.symm.trans (hname ▸ hfirst'))
  rw [hdecl, hshape', Option.some.injEq] at hshape
  obtain ⟨decl, shape⟩ := e
  obtain ⟨decl', shape'⟩ := e'
  exact congrArg₂ Entry.mk hdecl hshape.symm

/-- Drawing declarations leaves names out, and never adds or moves one. -/
theorem names_sublist (filter : Filter) (types : List TypeDecl) :
    (types.filterMap (TypeDecl.entry? filter)).map Entry.name <+ types.map TypeDecl.name := by
  induction types with
  | nil => exact List.Sublist.refl []
  | cons t types ih =>
      rw [List.filterMap_cons]
      cases hentry : t.entry? filter with
      | none => exact ih.cons t.name
      | some e =>
          obtain ⟨rfl, -⟩ := TypeDecl.entry?_eq_some.mp hentry
          exact ih.cons_cons e.name

theorem nodup_names (catalog : κ) (filter : Filter) :
    ((of catalog filter).entries.map Entry.name).Nodup := by
  rw [entries_of]
  exact (nodup_firsts TypeDecl.name _).sublist (names_sublist filter _)

theorem contains_iff {name : String} :
    (of catalog filter).contains name = true ↔
      ∃ e ∈ (of catalog filter).entries, e.name = name := by
  rw [contains, names_of, List.contains_iff_mem, List.mem_reverse, List.mem_map]

/-- A name is drawn if searching the entries for it succeeds. -/
theorem contains_eq_any (catalog : κ) (filter : Filter) (name : String) :
    (of catalog filter).contains name = (of catalog filter).entries.any (·.name == name) := by
  rw [Bool.eq_iff_iff, contains_iff, List.any_eq_true]
  exact exists_congr fun e => and_congr_right' beq_iff_eq.symm

/-- A drawn name belongs to exactly one entry. -/
theorem exists_filter_eq {name : String} (h : (of catalog filter).contains name = true) :
    ∃ e ∈ (of catalog filter).entries, e.name = name ∧
      (of catalog filter).entries.filter (·.name == name) = [e] := by
  obtain ⟨e, he, rfl⟩ := contains_iff.mp h
  refine ⟨e, he, rfl, ?_⟩
  have hnodup := List.Nodup.of_map Entry.name (nodup_names catalog filter)
  rw [List.filter_congr fun e' he' => ?_, List.filter_beq, List.count_eq_one_of_mem hnodup he]
  · rfl
  · rw [Bool.eq_iff_iff, beq_iff_eq, beq_iff_eq]
    exact ⟨eq_of_name_eq he' he, congrArg Entry.name⟩

end Selection

/-! ### Edges -/

/-- What a declaration says of a target: it is the base, or an interface that no other one brings
in. -/
def TypeDecl.Reports (catalog : κ) (t : TypeDecl) : EdgeKind → TypeRef → Prop
  | .extension, target => t.base = some target
  | .implementation, target => target ∈ t.interfaces ∧ t.implies catalog target = false

variable {selection : Selection}

theorem TypeDecl.drawnBase?_eq_some {t : TypeDecl} {base : TypeRef} :
    t.drawnBase? selection = some base ↔
      t.base = some base ∧ base ≠ t.name ∧ selection.contains base = true := by
  simp [drawnBase?, Option.filter_eq_some_iff]

theorem TypeDecl.mem_drawnInterfaces {t : TypeDecl} {i : TypeRef} :
    i ∈ t.drawnInterfaces selection ↔
      i ∈ t.interfaces ∧ i ≠ t.name ∧ selection.contains i = true := by
  simp [drawnInterfaces, mem_firsts_id]

namespace Entry

variable {e : Entry}

/-- Unless it is an enumeration, an entry has the edge to its base and those to its interfaces. -/
theorem edges_eq (h : e.shape ≠ .enumBlock) :
    e.edges catalog selection =
      (e.decl.drawnBase? selection).toList.map (⟨e.name, ·, .extension⟩) ++
        ((e.decl.drawnInterfaces selection).filter (!e.decl.implies catalog ·)).map
          (⟨e.name, ·, .implementation⟩) := by
  unfold edges
  cases hshape : e.shape with
  | enumBlock => exact absurd hshape h
  | classBlock => rfl
  | interfaceBlock => rfl

theorem edges_enum (h : e.shape = .enumBlock) : e.edges catalog selection = [] := by
  unfold edges
  rw [h]

/-- Edges lead to the other drawn names that the declaration reports. -/
theorem mem_edges {r : Edge} :
    r ∈ e.edges catalog selection ↔
      e.shape ≠ .enumBlock ∧ r.source = e.name ∧ r.target ≠ e.name ∧
        selection.contains r.target = true ∧ e.decl.Reports catalog r.kind r.target := by
  obtain ⟨source, target, kind⟩ := r
  by_cases hshape : e.shape = .enumBlock
  · simp [edges_enum hshape, hshape]
  · rw [edges_eq hshape]
    simp only [List.mem_append, List.mem_map, Option.mem_toList, List.mem_filter,
      TypeDecl.drawnBase?_eq_some, TypeDecl.mem_drawnInterfaces, Edge.mk.injEq,
      Bool.not_eq_true']
    cases kind with
    | extension =>
        refine ⟨?_, fun ⟨_, hs, hne, hc, hbase⟩ =>
          .inl ⟨target, ⟨hbase, hne, hc⟩, hs.symm, rfl, rfl⟩⟩
        rintro (⟨base, ⟨hbase, hne, hc⟩, rfl, rfl, -⟩ | ⟨_, _, _, _, hkind⟩)
        · exact ⟨hshape, rfl, hne, hc, hbase⟩
        · cases hkind
    | implementation =>
        refine ⟨?_, fun ⟨_, hs, hne, hc, hi, himplies⟩ =>
          .inr ⟨target, ⟨⟨hi, hne, hc⟩, himplies⟩, hs.symm, rfl, rfl⟩⟩
        rintro (⟨_, _, _, _, hkind⟩ | ⟨i, ⟨⟨hi, hne, hc⟩, himplies⟩, rfl, rfl, -⟩)
        · cases hkind
        · exact ⟨hshape, rfl, hne, hc, hi, himplies⟩

end Entry

/-! ### Blocks and their edges -/

/-- An edge of an entry belongs to the entry's block and leads to the block of another entry. -/
structure Edge.Attached (catalog : κ) (selection : Selection) (lines : List String) (e : Entry)
    (r : Edge) : Prop where
  shape_ne : e.shape ≠ .enumBlock
  source_eq : r.source = e.name
  target_ne : r.target ≠ r.source
  /-- Of all entries one has the name of the target, and the line that opens its block is there. -/
  target_block : ∃ e', selection.entries.filter (·.name == r.target) = [e'] ∧
    (e'.keyword ++ " " ++ r.target ++ " \x7b") ∈ lines
  header_eq : (e.block catalog selection).header = e.keyword ++ " " ++ e.name ++ " \x7b"
  /-- The edge is written with the words that open the block it leaves. -/
  line_eq : r.line e.keyword = e.keyword ++ " " ++ e.name ++ " " ++ r.kind.word ++ " " ++ r.target
  line_mem : r.line e.keyword ∈ (e.block catalog selection).edgeLines

/-- At most one edge leads to a base, none after one to an interface, and no two to the same
interface. -/
structure Edge.Ordered (edges : List Edge) : Prop where
  one_base : (edges.filter (·.kind == .extension)).length ≤ 1
  base_first : edges.Pairwise fun r r' => r'.kind = .extension → r.kind = .extension
  interfaces_nodup : ((edges.filter (·.kind == .implementation)).map Edge.target).Nodup

theorem draw_lines (theme : String) (catalog : κ) (filter : Filter) :
    (draw theme catalog filter).lines = Diagram.opening theme ++
      (Selection.of catalog filter).entries.flatMap
        (fun e => (e.block catalog (Selection.of catalog filter)).lines) ++ [Diagram.ending] := by
  simp only [Diagram.lines, draw, List.flatMap_map]

/-- The lines of every block are lines of the diagram. -/
theorem block_lines_subset (theme : String) {e : Entry}
    (he : e ∈ (Selection.of catalog filter).entries) :
    (e.block catalog (Selection.of catalog filter)).lines ⊆
      (draw theme catalog filter).lines := by
  intro line hline
  rw [draw_lines, List.append_assoc]
  exact List.mem_append_right _ (List.mem_append_left _ (List.mem_flatMap.mpr ⟨e, he, hline⟩))

theorem Entry.attached_of_mem (theme : String) {e : Entry} {r : Edge}
    (hr : r ∈ e.edges catalog (Selection.of catalog filter)) :
    r.Attached catalog (Selection.of catalog filter) (draw theme catalog filter).lines e := by
  obtain ⟨hshape, hsource, htarget, hdrawn, -⟩ := Entry.mem_edges.mp hr
  obtain ⟨e', he', hname', hfilter⟩ := Selection.exists_filter_eq hdrawn
  refine ⟨hshape, hsource, hsource ▸ htarget, ⟨e', hfilter, ?_⟩, rfl, ?_, ?_⟩
  · rw [← hname']
    exact block_lines_subset theme he' List.mem_cons_self
  · simp only [Edge.line, Edge.clause, hsource, String.append_assoc]
  · exact List.mem_map_of_mem hr

/-- Edges to at most one base, then edges to different interfaces, are ordered. -/
theorem Edge.ordered_append (source : TypeRef) {bases interfaces : List TypeRef}
    (hbases : bases.length ≤ 1) (hinterfaces : interfaces.Nodup) :
    Ordered (bases.map (⟨source, ·, .extension⟩) ++
      interfaces.map (⟨source, ·, .implementation⟩)) where
  one_base := by
    rw [List.filter_append, List.filter_eq_self.mpr (by simp),
      List.filter_eq_nil_iff.mpr (by simp), List.append_nil, List.length_map]
    exact hbases
  base_first := by
    refine List.pairwise_append.mpr ⟨?_, ?_, by simp⟩
    · exact List.pairwise_map.mpr (List.pairwise_of_forall fun _ _ _ => rfl)
    · exact List.pairwise_map.mpr (List.pairwise_of_forall fun _ _ h => h)
  interfaces_nodup := by
    rw [List.filter_append, List.filter_eq_nil_iff.mpr (by simp),
      List.filter_eq_self.mpr (by simp), List.nil_append, List.map_map]
    exact (List.map_id interfaces).symm ▸ hinterfaces

theorem Entry.edges_ordered (catalog : κ) (selection : Selection) (e : Entry) :
    Edge.Ordered (e.edges catalog selection) := by
  by_cases hshape : e.shape = .enumBlock
  · rw [edges_enum hshape]
    exact ⟨Nat.zero_le 1, .nil, List.nodup_nil⟩
  · rw [edges_eq hshape]
    have hnodup := nodup_firsts id
      (e.decl.interfaces.filter fun i => i != e.decl.name && selection.contains i)
    rw [List.map_id] at hnodup
    exact Edge.ordered_append e.name (by cases e.decl.drawnBase? selection <;> simp)
      (hnodup.filter _)

/-- **No edge dangles, and each type has one block.** -/
theorem edges_attached (theme : String) (catalog : κ) (filter : Filter) :
    ((Selection.of catalog filter).entries.map Entry.name).Nodup ∧
    (draw theme catalog filter).lines = Diagram.opening theme ++
      (Selection.of catalog filter).entries.flatMap
        (fun e => (e.block catalog (Selection.of catalog filter)).lines) ++ [Diagram.ending] ∧
    ∀ e ∈ (Selection.of catalog filter).entries,
      (∀ r ∈ e.edges catalog (Selection.of catalog filter),
        r.Attached catalog (Selection.of catalog filter) (draw theme catalog filter).lines e) ∧
      Edge.Ordered (e.edges catalog (Selection.of catalog filter)) :=
  ⟨Selection.nodup_names catalog filter, draw_lines theme catalog filter, fun e _ =>
    ⟨fun _ hr => Entry.attached_of_mem theme hr, e.edges_ordered catalog _⟩⟩

end ClassDiagram
