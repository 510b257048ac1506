import ClassDiagram.Proofs.Symbol.RoundTrip

/-! # Graphs that can be built

A graph is built by actions: it is emptied, a declaration is added, declarations are collected, or a
document is loaded.  `build` performs actions one after the other; one that fails leaves the graph
as it was.

`Indexed` is what every action keeps: no declaration is without a name, and the index leads from
each name to its first declaration.  Hence looking up a name in a graph that has been built is
looking for the first declaration of that name (`firstMatch_build`), and a graph that is written and
loaded again is the same graph (`reload_build`). -/

namespace ClassDiagram.Graph

open Json (Ending)

/-! ### Actions -/

/-- A step in the building of a graph. -/
inductive Action where
  | new
  | add (t : TypeDecl)
  | collect (types : List TypeDecl)
  | load (text : String)
  | stream (input : List UInt8) (ending : Ending)

/-- The graph after an action; an action that fails leaves it as it was. -/
def perform (g : Graph) : Action → Graph
  | .new => empty
  | .add t => (g.add t).toOption.getD g
  | .collect types => ofList types
  | .load text => (ofText text).toOption.getD g
  | .stream input ending => (ofStream input ending).toOption.getD g

/-- The graph after actions, one after the other, from the empty graph on. -/
def build (actions : List Action) : Graph := actions.foldl perform empty

/-! ### The index -/

/-- Every declaration has a name, and the index knows the first declaration of each name. -/
structure Indexed (g : Graph) : Prop where
  named : ∀ t ∈ g.toList, t.name ≠ ""
  index_eq : ∀ name, g.index[name]? = g.toList.findIdx? (·.name == name)

/-- By its index a graph finds the first declaration of a name. -/
theorem Indexed.firstMatch {g : Graph} (h : g.Indexed) : Catalog.FirstMatch g := by
  intro name
  show g.find? name = firstDecl? g.toList name
  unfold find? firstDecl?
  rw [h.index_eq, List.find?_eq_bind_findIdx?_getElem?]
  simp only [toList, Array.getElem?_toList]
  rfl

theorem indexed_empty : empty.Indexed where
  named _ ht := nomatch ht
  index_eq name := by
    rw [show empty.index[name]? = none from Std.HashMap.getElem?_empty]
    rfl

/-! ### Adding declarations -/

/-- What has been added has a name and stands at the end. -/
theorem add_eq_ok {g g' : Graph} {t : TypeDecl} (h : g.add t = .ok g') :
    t.name ≠ "" ∧ g'.toList = g.toList ++ [t] ∧
      g'.index = if g.index.contains t.name then g.index else g.index.insert t.name g.size := by
  unfold add at h
  split at h
  case isTrue hempty => cases h
  case isFalse hempty =>
      cases h
      exact ⟨fun hname => hempty (by rw [hname]; rfl), Array.toList_push, rfl⟩

theorem exists_add (g : Graph) {t : TypeDecl} (hname : t.name ≠ "") : ∃ g', g.add t = .ok g' := by
  unfold add
  rw [if_neg (by rwa [String.isEmpty_iff])]
  exact ⟨_, rfl⟩

/-- A declaration at the end is the first of its name only if no other has the name. -/
theorem Indexed.add {g g' : Graph} {t : TypeDecl} (h : g.Indexed) (hadd : g.add t = .ok g') :
    g'.Indexed := by
  obtain ⟨hname, hlist, hindex⟩ := add_eq_ok hadd
  refine ⟨fun t' ht' => ?_, fun name => ?_⟩
  · rw [hlist, List.mem_append, List.mem_singleton] at ht'
    rcases ht' with ht' | rfl
    · exact h.named t' ht'
    · exact hname
  · rw [hlist, List.findIdx?_append, List.findIdx?_singleton, ← h.index_eq, hindex]
    have hsize : g.toList.length = g.size := Array.length_toList
    rw [Std.HashMap.contains_eq_isSome_getElem?]
    cases hfound : g.index[t.name]? with
    | some i =>
        by_cases heq : t.name = name
        · subst heq; simp [hfound]
        · simp [heq]
    | none =>
        by_cases heq : t.name = name
        · subst heq; simp [hfound, hsize]
        · simp [heq, Std.HashMap.getElem?_insert]

theorem addAll_cons (g : Graph) (t : TypeDecl) (types : List TypeDecl) :
    g.addAll (t :: types) = (g.add t).bind (addAll · types) := rfl

theorem Indexed.addAll {g g' : Graph} {types : List TypeDecl} (h : g.Indexed)
    (hadd : g.addAll types = .ok g') : g'.Indexed := by
  induction types generalizing g with
  | nil => cases hadd; exact h
  | cons t types ih =>
      rw [addAll_cons] at hadd
      cases hfirst : g.add t with
      | error e => rw [hfirst] at hadd; cases hadd
      | ok g₁ =>
          rw [hfirst] at hadd
          exact ih (h.add hfirst) hadd

/-- Declarations with names are all added. -/
theorem exists_addAll (g : Graph) {types : List TypeDecl} (hnamed : ∀ t ∈ types, t.name ≠ "") :
    ∃ g', g.addAll types = .ok g' ∧ g'.toList = g.toList ++ types := by
  induction types generalizing g with
  | nil => exact ⟨g, rfl, (List.append_nil _).symm⟩
  | cons t types ih =>
      obtain ⟨g₁, hfirst⟩ := g.exists_add (hnamed t List.mem_cons_self)
      obtain ⟨g', hrest, hlist⟩ := ih g₁ fun t' ht' => hnamed t' (List.mem_cons_of_mem t ht')
      refine ⟨g', ?_, ?_⟩
      · rw [addAll_cons, hfirst]
        exact hrest
      · rw [hlist, (add_eq_ok hfirst).2.1, List.append_assoc]
        rfl

theorem indexed_ofList (types : List TypeDecl) : (ofList types).Indexed := by
  unfold ofList
  refine List.foldlRecOn types _ indexed_empty fun g hg t _ => ?_
  cases hadd : g.add t with
  | ok g' => exact hg.add hadd
  | error e => exact hg

/-! ### Loading and runs of actions -/

theorem indexed_ofText {text : String} {g : Graph} (h : ofText text = .ok g) : g.Indexed := by
  unfold ofText at h
  cases hread : readString readDocument text with
  | error e => rw [hread] at h; cases h
  | ok types => rw [hread] at h; exact indexed_empty.addAll h

theorem indexed_ofStream {input : List UInt8} {ending : Ending} {g : Graph}
    (h : ofStream input ending = .ok g) : g.Indexed := by
  unfold ofStream at h
  cases hread : readFrom readDocument (Json.Stream.start input ending) with
  | error e => rw [hread] at h; cases h
  | ok types => rw [hread] at h; exact indexed_empty.addAll h

/-- An attempt whose success would be indexed leads to an indexed graph, also if it fails. -/
theorem Indexed.attempt {g : Graph} (h : g.Indexed) {attempt : Except LoadError Graph}
    (hok : ∀ g', attempt = .ok g' → g'.Indexed) : (attempt.toOption.getD g).Indexed := by
  cases attempt with
  | error e => exact h
  | ok g' => exact hok g' rfl

/-- Every action keeps the index right. -/
theorem Indexed.perform {g : Graph} (h : g.Indexed) (action : Action) :
    (g.perform action).Indexed := by
  cases action with
  | new => exact indexed_empty
  | add t => exact h.attempt fun _ => h.add
  | collect types => exact indexed_ofList types
  | load text => exact h.attempt fun _ => indexed_ofText
  | stream input ending => exact h.attempt fun _ => indexed_ofStream

theorem indexed_build (actions : List Action) : (build actions).Indexed :=
  List.foldlRecOn actions Graph.perform indexed_empty fun _ hg action _ => hg.perform action

/-- A graph that has been built finds the first declaration of every name. -/
theorem firstMatch_build (actions : List Action) : Catalog.FirstMatch (build actions) :=
  (indexed_build actions).firstMatch

/-- An indexed graph is loaded again from what it is written as. -/
theorem Indexed.ofText_toJson {g : Graph} (h : g.Indexed) :
    ∃ g', ofText g.toJson = .ok g' ∧ g'.toList = g.toList := by
  have hread : readString readDocument g.toJson = .ok g.toList :=
    readString_write (written_document Json.Layout.blanks_pretty g.toList)
      (accepts_document _ g.toList)
  obtain ⟨g', hadd, hlist⟩ := empty.exists_addAll h.named
  refine ⟨g', ?_, hlist⟩
  unfold ofText
  rw [hread]
  exact hadd

/-- **What is written of a graph, a type or a member is read back as it was**: the graph with the
same declarations in the same order, each found under the same names. -/
theorem reload_build (actions : List Action) :
    (∃ g', ofText (build actions).toJson = .ok g' ∧ g'.toList = (build actions).toList ∧
      ∀ name, g'.find? name = (build actions).find? name) ∧
    (∀ t : TypeDecl, readString TypeDecl.read t.toJson.compact = .ok t) ∧
    (∀ m : Member, readString Member.read m.toJson.compact = .ok m) := by
  refine ⟨?_, fun t => ?_, fun m => ?_⟩
  · obtain ⟨g', hload, hlist⟩ := (indexed_build actions).ofText_toJson
    refine ⟨g', hload, hlist, fun name => ?_⟩
    calc g'.find? name
        _ = firstDecl? g'.toList name := (indexed_ofText hload).firstMatch name
        _ = firstDecl? (build actions).toList name := by rw [hlist]
        _ = (build actions).find? name := (firstMatch_build actions name).symm
  · exact readString_write (written_typeDecl Json.Layout.blanks_compact t) (accepts_typeDecl _ t)
  · exact readString_write (written_member Json.Layout.blanks_compact m) (accepts_member _ m)

end ClassDiagram.Graph
