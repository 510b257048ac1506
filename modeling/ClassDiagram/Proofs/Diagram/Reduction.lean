import ClassDiagram.Proofs.Diagram.Drawn
import Mathlib.Data.Finset.Card
import Mathlib.Data.Finset.Dedup
import Mathlib.Logic.Relation

/-! # Interface edges as a reduction

A type lists all its interfaces, also those that other interfaces bring in, and a diagram draws only
some of them.  Suppose that the lists of a selection are complete (`Selection.Closed`) and the
catalog finds first declarations, as lists do (`firstMatch_list`) and all graphs that are built
(`Graph.firstMatch_build`).  Then the drawn edges are the transitive reduction of the lists
(`interfaces_reduction`): along drawn edges exactly the listed interfaces are reached, and no drawn
edge can be replaced by a longer way.

Whatever is listed is reached because a listed interface that has no edge is brought in by another
one, whose own list lies strictly between the two (`transGen_of_mem`). -/

namespace ClassDiagram

variable {κ : Type} [Catalog κ]

/-! ### Complete lists -/

/-- The drawn edges to interfaces, between names. -/
def Implements (catalog : κ) (selection : Selection) (source target : TypeRef) : Prop :=
  ∃ e ∈ selection.entries, ⟨source, target, .implementation⟩ ∈ e.edges catalog selection

/-- The list of an entry does not lead back to it, and holds with a declared interface, which is
drawn, all that the interface lists. -/
structure Entry.Closed (catalog : κ) (selection : Selection) (e : Entry) : Prop where
  not_self : e.name ∉ e.decl.interfaces
  drawn : ∀ j ∈ e.decl.interfaces, ∀ d ∈ Catalog.find? catalog j,
    ∃ e' ∈ selection.entries, e'.name = j ∧ e'.shape ≠ .enumBlock
  transitive : ∀ j ∈ e.decl.interfaces, ∀ d ∈ Catalog.find? catalog j,
    ∀ i ∈ d.interfaces, i ∈ e.decl.interfaces

/-- All lists of a selection are complete; enumerations have none that counts. -/
def Selection.Closed (catalog : κ) (selection : Selection) : Prop :=
  ∀ e ∈ selection.entries, e.shape ≠ .enumBlock → e.Closed catalog selection

instance (catalog : κ) (selection : Selection) (e : Entry) :
    Decidable (e.Closed catalog selection) :=
  decidable_of_iff
    (e.name ∉ e.decl.interfaces ∧
      (∀ j ∈ e.decl.interfaces, ∀ d ∈ Catalog.find? catalog j,
        ∃ e' ∈ selection.entries, e'.name = j ∧ e'.shape ≠ .enumBlock) ∧
      ∀ j ∈ e.decl.interfaces, ∀ d ∈ Catalog.find? catalog j,
        ∀ i ∈ d.interfaces, i ∈ e.decl.interfaces)
    ⟨fun ⟨h, h', h''⟩ => ⟨h, h', h''⟩, fun ⟨h, h', h''⟩ => ⟨h, h', h''⟩⟩

instance (catalog : κ) (selection : Selection) : Decidable (selection.Closed catalog) :=
  inferInstanceAs (Decidable (∀ e ∈ selection.entries, _ → _))

/-- The interfaces of an entry as a set. -/
def Entry.interfaceSet (e : Entry) : Finset TypeRef := e.decl.interfaces.toFinset

theorem Entry.mem_interfaceSet {e : Entry} {i : TypeRef} :
    i ∈ e.interfaceSet ↔ i ∈ e.decl.interfaces := List.mem_toFinset

theorem TypeDecl.implies_iff {catalog : κ} {t : TypeDecl} {i : TypeRef} :
    t.implies catalog i = true ↔ ∃ other ∈ t.interfaces, other ≠ i ∧ other ≠ t.name ∧
      ∃ d, Catalog.find? catalog other = some d ∧ i ∈ d.interfaces := by
  simp [implies, implements, Option.any_eq_true, and_assoc]

/-! ### Edges and lists -/

section closed
variable {catalog : κ} {filter : Filter} (hmatch : Catalog.FirstMatch catalog)
  (hclosed : (Selection.of catalog filter).Closed catalog)

include hmatch in
theorem find?_of_mem {e : Entry} (he : e ∈ (Selection.of catalog filter).entries) :
    Catalog.find? catalog e.name = some e.decl :=
  (hmatch e.name).trans (Selection.mem_of.mp he).1

/-- Edges leave their entry for listed interfaces that are drawn. -/
theorem Implements.inversion {e : Entry} (he : e ∈ (Selection.of catalog filter).entries)
    {i : TypeRef} (h : Implements catalog (Selection.of catalog filter) e.name i) :
    e.shape ≠ .enumBlock ∧ i ≠ e.name ∧ (Selection.of catalog filter).contains i = true ∧
      i ∈ e.decl.interfaces ∧ e.decl.implies catalog i = false := by
  obtain ⟨e', he', hedge⟩ := h
  obtain ⟨hshape, hsource, hne, hdrawn, hlisted, himplies⟩ := Entry.mem_edges.mp hedge
  obtain rfl := Selection.eq_of_name_eq he he' hsource
  exact ⟨hshape, hne, hdrawn, hlisted, himplies⟩

include hmatch hclosed in
/-- A drawn interface of an entry is an entry with a strictly smaller set of interfaces. -/
theorem exists_interface_entry {e : Entry} (he : e ∈ (Selection.of catalog filter).entries)
    (hshape : e.shape ≠ .enumBlock) {i : TypeRef} (hi : i ∈ e.decl.interfaces)
    (hdrawn : (Selection.of catalog filter).contains i = true) :
    ∃ e' ∈ (Selection.of catalog filter).entries, e'.name = i ∧ e'.shape ≠ .enumBlock ∧
      e'.interfaceSet ⊂ e.interfaceSet := by
  obtain ⟨e', he', rfl⟩ := Selection.contains_iff.mp hdrawn
  have hfound := find?_of_mem hmatch he'
  obtain ⟨e'', he'', hname, hshape''⟩ := (hclosed e he hshape).drawn _ hi _ hfound
  obtain rfl := Selection.eq_of_name_eq he'' he' hname
  refine ⟨e'', he'', rfl, hshape'', Finset.ssubset_iff_of_subset ?_ |>.mpr ⟨e''.name, ?_, ?_⟩⟩
  · intro j hj
    have hj' := Entry.mem_interfaceSet.mp hj
    exact Entry.mem_interfaceSet.mpr ((hclosed e he hshape).transitive _ hi _ hfound j hj')
  · exact Entry.mem_interfaceSet.mpr hi
  · exact mt Entry.mem_interfaceSet.mp (hclosed e'' he'' hshape'').not_self

include hmatch hclosed in
/-- Drawn ways lead to listed interfaces only. -/
theorem mem_of_transGen {e : Entry} (he : e ∈ (Selection.of catalog filter).entries) {i : TypeRef}
    (h : Relation.TransGen (Implements catalog (Selection.of catalog filter)) e.name i) :
    i ∈ e.decl.interfaces := by
  generalize hstart : e.name = start at h
  induction h using Relation.TransGen.head_induction_on generalizing e with
  | single hedge =>
      subst hstart
      exact (hedge.inversion he).2.2.2.1
  | head hedge _ ih =>
      subst hstart
      obtain ⟨hshape, -, hdrawn, hlisted, -⟩ := hedge.inversion he
      obtain ⟨e', he', hname, -, hsub⟩ :=
        exists_interface_entry hmatch hclosed he hshape hlisted hdrawn
      exact Entry.mem_interfaceSet.mp (hsub.1 (Entry.mem_interfaceSet.mpr (ih he' hname)))

include hmatch hclosed in
/-- Listed interfaces that are drawn are reached along drawn edges. -/
theorem transGen_of_mem {e e' : Entry} (he : e ∈ (Selection.of catalog filter).entries)
    (hshape : e.shape ≠ .enumBlock) (he' : e' ∈ (Selection.of catalog filter).entries)
    (hlisted : e'.name ∈ e.decl.interfaces) :
    Relation.TransGen (Implements catalog (Selection.of catalog filter)) e.name e'.name := by
  -- the induction is on how many more interfaces `e` has than `e'`; a third entry that brings `e'`
  -- in has more than `e'` and fewer than `e`, which settles both parts of the way
  induction hgap : e.interfaceSet.card - e'.interfaceSet.card using Nat.strong_induction_on
    generalizing e e' with
  | _ gap ih =>
      have hdrawn' := Selection.contains_iff.mpr ⟨e', he', rfl⟩
      cases himplies : e.decl.implies catalog e'.name with
      | false =>
          have hne : e'.name ≠ e.name := fun hname =>
            (hclosed e he hshape).not_self (hname ▸ hlisted)
          exact .single ⟨e, he, Entry.mem_edges.mpr ⟨hshape, rfl, hne, hdrawn', hlisted, himplies⟩⟩
      | true =>
          obtain ⟨other, hother, -, -, d, hd, hlisted'⟩ := TypeDecl.implies_iff.mp himplies
          obtain ⟨f, hf, rfl, hshape'⟩ := (hclosed e he hshape).drawn other hother d hd
          obtain rfl : f.decl = d := Option.some.inj ((find?_of_mem hmatch hf).symm.trans hd)
          have hdrawn := Selection.contains_iff.mpr ⟨f, hf, rfl⟩
          obtain ⟨f', hf', hname, -, hbelow⟩ :=
            exists_interface_entry hmatch hclosed he hshape hother hdrawn
          obtain rfl := Selection.eq_of_name_eq hf' hf hname
          obtain ⟨e'', he'', hname', -, habove⟩ :=
            exists_interface_entry hmatch hclosed hf' hshape' hlisted' hdrawn'
          obtain rfl := Selection.eq_of_name_eq he'' he' hname'
          have hlt := Finset.card_lt_card hbelow
          have hlt' := Finset.card_lt_card habove
          have hfirst := ih _ (by omega) he hshape hf' hother rfl
          have hsecond := ih _ (by omega) hf' hshape' he'' hlisted' rfl
          exact hfirst.trans hsecond

include hmatch hclosed in
/-- A drawn edge is the only way to its target. -/
theorem not_transGen_of_mem_edges {e : Entry} (he : e ∈ (Selection.of catalog filter).entries)
    {i j : TypeRef} (hi : Implements catalog (Selection.of catalog filter) e.name i)
    (hj : Implements catalog (Selection.of catalog filter) e.name j) :
    ¬ Relation.TransGen (Implements catalog (Selection.of catalog filter)) j i := by
  intro hway
  obtain ⟨hshape, -, -, -, hnot⟩ := hi.inversion he
  obtain ⟨-, hne, hdrawn, hlisted, -⟩ := hj.inversion he
  obtain ⟨f, hf, rfl, hshape', -⟩ :=
    exists_interface_entry hmatch hclosed he hshape hlisted hdrawn
  have hmem := mem_of_transGen hmatch hclosed hf hway
  have hne' : f.name ≠ i := fun hname => (hclosed f hf hshape').not_self (hname ▸ hmem)
  have himplies := TypeDecl.implies_iff.mpr
    ⟨f.name, hlisted, hne', hne, f.decl, find?_of_mem hmatch hf, hmem⟩
  rw [himplies] at hnot
  cases hnot

end closed

/-! ### The reduction -/

/-- **The drawn edges are the transitive reduction of the lists of interfaces.** -/
theorem interfaces_reduction (catalog : κ) (filter : Filter) (hmatch : Catalog.FirstMatch catalog)
    (hclosed : (Selection.of catalog filter).Closed catalog) :
    ∀ e ∈ (Selection.of catalog filter).entries, e.shape ≠ .enumBlock →
      (∀ i, (Selection.of catalog filter).contains i = true →
        (Relation.TransGen (Implements catalog (Selection.of catalog filter)) e.name i ↔
          i ∈ e.decl.interfaces)) ∧
      ∀ i, Implements catalog (Selection.of catalog filter) e.name i →
        ¬ ∃ j, Implements catalog (Selection.of catalog filter) e.name j ∧
          Relation.TransGen (Implements catalog (Selection.of catalog filter)) j i := by
  intro e he hshape
  refine ⟨fun i hdrawn => ⟨mem_of_transGen hmatch hclosed he, fun hlisted => ?_⟩, ?_⟩
  · obtain ⟨e', he', rfl⟩ := Selection.contains_iff.mp hdrawn
    exact transGen_of_mem hmatch hclosed he hshape he' hlisted
  · rintro i hi ⟨j, hj, hway⟩
    exact not_transGen_of_mem_edges hmatch hclosed he hi hj hway

/-- A class that lists an interface together with the one which that interface brings in. -/
def kennel : List TypeDecl :=
  [{ name := "Animal", kind := .interfaceType },
    { name := "Dog", kind := .interfaceType, interfaces := ["Animal"] },
    { name := "Poodle", interfaces := ["Animal", "Dog"] }]

theorem interfaces_reduction_kennel :
    (Selection.of kennel .publicOnly).Closed kennel ∧
      Relation.TransGen (Implements kennel (Selection.of kennel .publicOnly))
        "Poodle" "Animal" := by
  have hclosed : (Selection.of kennel .publicOnly).Closed kennel := by decide
  have hmem : ⟨{ name := "Poodle", interfaces := ["Animal", "Dog"] }, .classBlock⟩ ∈
      (Selection.of kennel .publicOnly).entries := by decide
  have hreduction := interfaces_reduction kennel .publicOnly (firstMatch_list kennel) hclosed
  exact ⟨hclosed, ((hreduction _ hmem (by decide)).1 "Animal" (by decide)).mpr (by decide)⟩

end ClassDiagram
