import ClassDiagram.Proofs.Diagram.Growth
import Mathlib.Data.List.Perm.Basic

/-! # The order of declarations

Where no two declarations share a name, the order in which they stand decides nothing but the order
of the blocks.  What is drawn under a name can be said without regard to the drawing of other names
(`block?_draw`): it is the block of what a search for the name finds.  A search finds the same in
catalogs that are permutations of each other, so their names stand for the same blocks.

Hence `draw_rearranged`: the lines of both diagrams are those of the same blocks, each time taken up
as the names are declared. -/

namespace ClassDiagram

open scoped List

variable {κ κ' : Type} [Catalog κ] [Catalog κ']

/-- The block of a name. -/
def Diagram.block? (d : Diagram) (name : TypeRef) : Option Block := d.blocks.find? (·.name == name)

/-! ### Blocks by name -/

section search
variable (catalog : κ) (filter : Filter)

/-- The entry of a name is that of the name's first declaration. -/
theorem Selection.find?_entries (name : TypeRef) :
    (Selection.of catalog filter).entries.find? (·.name == name) =
      (firstDecl? (Catalog.types catalog) name).bind (TypeDecl.entry? filter) := by
  apply Option.ext
  intro e
  rw [Option.bind_eq_some_iff]
  constructor
  · intro hfind
    have he := List.mem_of_find?_eq_some hfind
    have hname : e.name = name := by simpa using List.find?_some hfind
    obtain ⟨hfirst, hshape⟩ := Selection.mem_of.mp he
    exact ⟨e.decl, hname ▸ hfirst, TypeDecl.entry?_eq_some.mpr ⟨rfl, hshape⟩⟩
  · rintro ⟨t, hfirst, hentry⟩
    obtain ⟨rfl, hshape⟩ := TypeDecl.entry?_eq_some.mp hentry
    obtain ⟨rfl, -⟩ := firstDecl?_eq_some.mp hfirst
    have he : e ∈ (Selection.of catalog filter).entries := Selection.mem_of.mpr ⟨hfirst, hshape⟩
    exact find?_of_nodup (Selection.nodup_names catalog filter) he

theorem block?_draw (theme : String) (name : TypeRef) :
    (draw theme catalog filter).block? name =
      ((firstDecl? (Catalog.types catalog) name).bind (TypeDecl.entry? filter)).map
        (Entry.block catalog (Selection.of catalog filter)) := by
  rw [← Selection.find?_entries]
  exact List.find?_map

end search

/-- If each declaration has a name of its own, it is the one that is found under the name. -/
theorem firstDecl?_of_mem {types : List TypeDecl} (hnodup : (types.map TypeDecl.name).Nodup)
    {t : TypeDecl} (ht : t ∈ types) : firstDecl? types t.name = some t :=
  find?_of_nodup hnodup ht

/-- If each declaration has a name of its own, the blocks follow the names as they are declared. -/
theorem blocks_eq_filterMap (theme : String) (catalog : κ) (filter : Filter)
    (hnodup : ((Catalog.types catalog).map TypeDecl.name).Nodup) :
    (draw theme catalog filter).blocks =
      ((Catalog.types catalog).map TypeDecl.name).filterMap (draw theme catalog filter).block? := by
  have hblock : ∀ t ∈ Catalog.types catalog, (draw theme catalog filter).block? t.name =
      (t.entry? filter).map (Entry.block catalog (Selection.of catalog filter)) := by
    intro t ht
    rw [block?_draw, firstDecl?_of_mem hnodup ht]
    rfl
  rw [List.filterMap_map]
  calc (draw theme catalog filter).blocks
      _ = ((Catalog.types catalog).filterMap (TypeDecl.entry? filter)).map
            (Entry.block catalog (Selection.of catalog filter)) := by
          rw [← firsts_eq_self hnodup, ← Selection.entries_of]
          rfl
      _ = (Catalog.types catalog).filterMap fun t =>
            (t.entry? filter).map (Entry.block catalog (Selection.of catalog filter)) :=
          List.map_filterMap
      _ = (Catalog.types catalog).filterMap ((draw theme catalog filter).block? ∘ TypeDecl.name) :=
          List.filterMap_congr fun t ht => (hblock t ht).symm

/-! ### Rearranged catalogs -/

/-- Two catalogs that find first declarations and hold the same ones in perhaps another order, each
with a name of its own. -/
structure Catalog.Rearranged (catalog : κ) (catalog' : κ') : Prop where
  perm : Catalog.types catalog ~ Catalog.types catalog'
  nodup_names : ((Catalog.types catalog).map TypeDecl.name).Nodup
  firstMatch : Catalog.FirstMatch catalog
  firstMatch' : Catalog.FirstMatch catalog'

namespace Catalog.Rearranged

variable {catalog : κ} {catalog' : κ'} (h : Catalog.Rearranged catalog catalog')
include h

theorem nodup_names' : ((Catalog.types catalog').map TypeDecl.name).Nodup :=
  (h.perm.map TypeDecl.name).nodup_iff.mp h.nodup_names

theorem firstDecl?_eq (name : TypeRef) :
    firstDecl? (Catalog.types catalog') name = firstDecl? (Catalog.types catalog) name := by
  apply Option.ext
  intro t
  constructor
  · intro hfound
    obtain ⟨rfl, -⟩ := firstDecl?_eq_some.mp hfound
    have ht : t ∈ Catalog.types catalog := h.perm.mem_iff.mpr (List.mem_of_find?_eq_some hfound)
    exact firstDecl?_of_mem h.nodup_names ht
  · intro hfound
    obtain ⟨rfl, -⟩ := firstDecl?_eq_some.mp hfound
    have ht : t ∈ Catalog.types catalog' := h.perm.mem_iff.mp (List.mem_of_find?_eq_some hfound)
    exact firstDecl?_of_mem h.nodup_names' ht

/-- Rearranged catalogs agree on every name. -/
theorem agreeOn (filter : Filter) (name : TypeRef) : AgreeOn filter catalog' catalog name where
  contains_eq := by
    have hmem : ∀ e, e ∈ (Selection.of catalog' filter).entries ↔
        e ∈ (Selection.of catalog filter).entries := by
      intro e
      rw [Selection.mem_of, Selection.mem_of, h.firstDecl?_eq]
    rw [Bool.eq_iff_iff, Selection.contains_iff, Selection.contains_iff]
    exact exists_congr fun e => and_congr_left fun _ => hmem e
  find?_eq := by
    rw [h.firstMatch', h.firstMatch, h.firstDecl?_eq]

theorem block?_eq (theme : String) (filter : Filter) (name : TypeRef) :
    (draw theme catalog' filter).block? name = (draw theme catalog filter).block? name := by
  have hblock : Entry.block catalog' (Selection.of catalog' filter) =
      Entry.block catalog (Selection.of catalog filter) := by
    funext e
    exact Entry.block_eq_of_agree fun name _ _ => h.agreeOn filter name
  rw [block?_draw, block?_draw, h.firstDecl?_eq, hblock]

theorem blocks_eq (theme : String) (filter : Filter) :
    (draw theme catalog' filter).blocks =
      ((Catalog.types catalog').map TypeDecl.name).filterMap
        (draw theme catalog filter).block? := by
  rw [blocks_eq_filterMap theme catalog' filter h.nodup_names']
  exact List.filterMap_congr fun name _ => h.block?_eq theme filter name

end Catalog.Rearranged

/-- **The order of declarations only orders the blocks.**  In diagrams of rearranged catalogs each
name has the same block, so the same opening line, body, closing line and edges, and no block comes
or goes.  The lines of either diagram are those of the blocks of the first one, in the order in
which the diagram's own catalog declares the names. -/
theorem draw_rearranged (theme : String) (filter : Filter) (catalog : κ) (catalog' : κ')
    (h : Catalog.Rearranged catalog catalog') :
    (∀ name, (draw theme catalog' filter).block? name =
      (draw theme catalog filter).block? name) ∧
    (draw theme catalog' filter).blocks ~ (draw theme catalog filter).blocks ∧
    render theme catalog filter = Text.unlines (Diagram.opening theme ++
      (((Catalog.types catalog).map TypeDecl.name).filterMap
        (draw theme catalog filter).block?).flatMap Block.lines ++ [Diagram.ending]) ∧
    render theme catalog' filter = Text.unlines (Diagram.opening theme ++
      (((Catalog.types catalog').map TypeDecl.name).filterMap
        (draw theme catalog filter).block?).flatMap Block.lines ++ [Diagram.ending]) := by
  have hblocks := blocks_eq_filterMap theme catalog filter h.nodup_names
  have hblocks' := h.blocks_eq theme filter
  refine ⟨h.block?_eq theme filter, ?_, ?_, ?_⟩
  · rw [hblocks', hblocks]
    exact ((h.perm.map TypeDecl.name).filterMap _).symm
  · rw [← hblocks]
    rfl
  · rw [← hblocks']
    rfl

/-- A ferry that names its base and its interfaces before they are declared, one of which brings in
another. -/
def ferries : List TypeDecl :=
  [{ name := "Ferry", base := some "Boat", interfaces := ["Afloat", "Steered"] },
    { name := "Afloat", kind := .interfaceType },
    { name := "Boat", isAbstract := true },
    { name := "Steered", kind := .interfaceType, interfaces := ["Afloat"] },
    { name := "Pilot", visibility := .priv }]

theorem draw_rearranged_ferries :
    Catalog.Rearranged ferries ferries.reverse ∧
      (draw defaultTheme ferries.reverse .publicOnly).block? "Ferry" =
        (draw defaultTheme ferries .publicOnly).block? "Ferry" ∧
      (draw defaultTheme ferries .publicOnly).block? "Ferry" =
        some ⟨"class", "Ferry", [], [⟨"Ferry", "Boat", .extension⟩,
          ⟨"Ferry", "Steered", .implementation⟩]⟩ := by
  have h : Catalog.Rearranged ferries ferries.reverse :=
    ⟨(List.reverse_perm ferries).symm, by decide, firstMatch_list _, firstMatch_list _⟩
  exact ⟨h, (draw_rearranged defaultTheme .publicOnly _ _ h).1 "Ferry", by decide⟩

end ClassDiagram
