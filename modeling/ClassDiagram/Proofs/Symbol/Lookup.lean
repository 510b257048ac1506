import ClassDiagram.Proofs.Diagram.Hiding
import ClassDiagram.Proofs.Symbol.GraphRuns

/-! # Looking up by the index

In a run the steps that build a graph are mixed with reloads, where the graph is written and loaded
again.  All of them keep the graph indexed (`indexed_run`).

The index of such a graph stands for a search through its declarations: `Resolves` says that it
holds exactly the names that are declared and leads each of them to its first declaration.  Hence a
graph is drawn like the list of its declarations (`run_refines_list`). -/

namespace ClassDiagram.Graph

/-! ### Runs -/

/-- A step of a run: an action, or a reload. -/
inductive Step where
  | act (action : Action)
  | reload

/-- The graph after a step; a step that fails leaves it as it was. -/
def step (g : Graph) : Step → Graph
  | .act action => g.perform action
  | .reload => (ofText g.toJson).toOption.getD g

/-- The graph after a run from the empty graph on. -/
def run (steps : List Step) : Graph := steps.foldl step empty

theorem Indexed.step {g : Graph} (h : g.Indexed) (s : Step) : (g.step s).Indexed := by
  cases s with
  | act action => exact h.perform action
  | reload =>
      rw [Graph.step]
      exact h.attempt fun _ => indexed_ofText

theorem indexed_run (steps : List Step) : (run steps).Indexed :=
  List.foldlRecOn steps Graph.step indexed_empty fun _ hg s _ => hg.step s

/-! ### The index as a search -/

/-- The index of the graph finds what a search through the declarations finds. -/
structure Resolves (g : Graph) : Prop where
  named : ∀ t ∈ g.toList, t.name ≠ ""
  mem_index : ∀ name, name ∈ g.index ↔ ∃ t ∈ g.toList, t.name = name
  /-- A position of the index is one of a declaration, and no declaration before it has the name. -/
  first : ∀ name i, g.index[name]? = some i →
    ∃ h : i < g.decls.size, g.find? name = some g.decls[i] ∧ g.decls[i].name = name ∧
      ∀ j (hj : j < i), g.decls[j].name ≠ name
  find?_eq : ∀ name, g.find? name = firstDecl? g.toList name

theorem Indexed.mem_index {g : Graph} (h : g.Indexed) (name : String) :
    name ∈ g.index ↔ ∃ t ∈ g.toList, t.name = name := by
  rw [Std.HashMap.mem_iff_isSome_getElem?, h.index_eq, List.findIdx?_isSome]
  simp

theorem Indexed.first {g : Graph} (h : g.Indexed) {name : String} {i : Nat}
    (hi : g.index[name]? = some i) :
    ∃ hlt : i < g.decls.size, g.find? name = some g.decls[i] ∧ g.decls[i].name = name ∧
      ∀ j (hj : j < i), g.decls[j].name ≠ name := by
  have hfound := h.index_eq name
  rw [hi, eq_comm, List.findIdx?_eq_some_iff_getElem] at hfound
  obtain ⟨hlt, hname, hbefore⟩ := hfound
  have hlt' : i < g.decls.size := by simpa [toList] using hlt
  refine ⟨hlt', ?_, by simpa [toList] using hname, fun j hj => ?_⟩
  · simp [find?, hi, hlt']
  · simpa [toList] using hbefore j hj

theorem Indexed.resolves {g : Graph} (h : g.Indexed) : g.Resolves where
  named := h.named
  mem_index := h.mem_index
  first _ _ := h.first
  find?_eq := h.firstMatch

/-- Only a declaration without a name is refused, and then the graph stays as it was. -/
theorem add_cases (g : Graph) (t : TypeDecl) :
    (t.name = "" ∧ g.add t = .error (.nameless g.size) ∧ g.perform (.add t) = g) ∨
      (t.name ≠ "" ∧ ∃ g', g.add t = .ok g' ∧ g.perform (.add t) = g' ∧
        g'.toList = g.toList ++ [t]) := by
  by_cases hname : t.name = ""
  · have hadd : g.add t = .error (.nameless g.size) := by
      unfold add
      rw [if_pos (by rw [hname]; rfl)]
    refine .inl ⟨hname, hadd, ?_⟩
    rw [perform, hadd]
    rfl
  · obtain ⟨g', hadd⟩ := g.exists_add hname
    refine .inr ⟨hname, g', hadd, ?_, (add_eq_ok hadd).2.1⟩
    rw [perform, hadd]
    rfl

/-! ### Diagrams -/

/-- An indexed graph is drawn like the list of its declarations. -/
theorem Indexed.draw_eq {g : Graph} (h : g.Indexed) (theme : String) (filter : Filter) :
    draw theme g filter = draw theme g.toList filter :=
  draw_eq_of_alike theme h.firstMatch (firstMatch_list g.toList)
    (List.forall₂_same.mpr fun t _ => TypeDecl.Alike.refl t)

/-- **After every run the index refines the search through the declarations**, a refused declaration
leaves no trace, and the graph is drawn like the list of its declarations. -/
theorem run_refines_list (steps : List Step) :
    (run steps).Resolves ∧
    (∀ t, (t.name = "" ∧ (run steps).add t = .error (.nameless (run steps).size) ∧
        (run steps).perform (.add t) = run steps) ∨
      (t.name ≠ "" ∧ ∃ g', (run steps).add t = .ok g' ∧ (run steps).perform (.add t) = g' ∧
        g'.toList = (run steps).toList ++ [t])) ∧
    ∀ theme filter,
      Selection.of (run steps) filter = Selection.of (run steps).toList filter ∧
      render theme (run steps) filter = render theme (run steps).toList filter ∧
      renderAll theme (run steps) = renderAll theme (run steps).toList := by
  have hindexed := indexed_run steps
  have hrender : ∀ theme filter,
      render theme (run steps) filter = render theme (run steps).toList filter :=
    fun theme filter => congrArg Diagram.text (hindexed.draw_eq theme filter)
  refine ⟨hindexed.resolves, (run steps).add_cases,
    fun theme filter => ⟨rfl, hrender theme filter, ?_⟩⟩
  rw [renderAll, renderAll, hrender, hrender]

end ClassDiagram.Graph
