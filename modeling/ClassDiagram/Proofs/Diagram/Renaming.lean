import ClassDiagram.Proofs.Diagram.Drawn

/-! # Names are opaque

A renaming replaces the name of each declaration, its base and its interfaces, and leaves everything
else alone.  No stage of a drawing looks into a name: selection, search and edges only ask whether
two names are the same.  So every stage commutes with a renaming that keeps different names apart,
whatever else the declarations are like; there is one lemma for each stage, and `drawing_renamed`
puts them together.  In particular it does not matter whether a name is empty, is a prefix of
another one, or differs from it in case only. -/

namespace ClassDiagram

/-- The declaration with its name, its base and its interfaces renamed. -/
def TypeDecl.renamed (r : TypeRef → TypeRef) (t : TypeDecl) : TypeDecl :=
  { t with name := r t.name, base := t.base.map r, interfaces := t.interfaces.map r }

/-- The entry of the renamed declaration. -/
def Entry.renamed (r : TypeRef → TypeRef) (e : Entry) : Entry :=
  { e with decl := e.decl.renamed r }

/-- The edge between the renamed types. -/
def Edge.renamed (r : TypeRef → TypeRef) (e : Edge) : Edge :=
  { e with source := r e.source, target := r e.target }

section selection
variable {r : TypeRef → TypeRef} (hr : Function.Injective r) (types : List TypeDecl)
  (filter : Filter)

/-! ### Entries and search -/

theorem TypeDecl.entry?_renamed (r : TypeRef → TypeRef) (filter : Filter) (t : TypeDecl) :
    TypeDecl.entry? filter (t.renamed r) = (t.entry? filter).map (Entry.renamed r) := by
  unfold entry?
  have hshape : (t.renamed r).shape? = t.shape? := rfl
  have hvisibility : (t.renamed r).visibility = t.visibility := rfl
  rw [hshape, hvisibility]
  cases t.shape? with
  | none => rfl
  | some shape =>
      by_cases hallows : filter.allows t.visibility = true
      · simp only [if_pos hallows]
        rfl
      · simp only [if_neg hallows]
        rfl

include hr

theorem bne_renamed (a b : TypeRef) : (r a != r b) = (a != b) := congrArg not hr.beq_eq

theorem Selection.entries_renamed :
    (Selection.of (types.map (TypeDecl.renamed r)) filter).entries =
      (Selection.of types filter).entries.map (Entry.renamed r) := by
  have hfirsts : firsts TypeDecl.name (types.map (TypeDecl.renamed r)) =
      (firsts TypeDecl.name types).map (TypeDecl.renamed r) := by
    apply firsts_map_of_injective hr
    intro t
    rfl
  have hentry : TypeDecl.entry? filter ∘ TypeDecl.renamed r =
      fun t => (t.entry? filter).map (Entry.renamed r) := by
    funext t
    exact t.entry?_renamed r filter
  rw [Selection.entries_of, Selection.entries_of]
  show (firsts TypeDecl.name (types.map (TypeDecl.renamed r))).filterMap _ =
    ((firsts TypeDecl.name types).filterMap _).map _
  rw [hfirsts, List.filterMap_map, hentry, List.map_filterMap]

theorem Selection.contains_renamed (name : TypeRef) :
    (Selection.of (types.map (TypeDecl.renamed r)) filter).contains (r name) =
      (Selection.of types filter).contains name := by
  have hname : ∀ e : Entry, ((e.renamed r).name == r name) = (e.name == name) := fun e => hr.beq_eq
  rw [Selection.contains_eq_any, Selection.contains_eq_any, Selection.entries_renamed hr,
    List.any_map]
  exact congrArg (List.any _) (funext hname)

theorem find?_renamed (name : TypeRef) :
    Catalog.find? (types.map (TypeDecl.renamed r)) (r name) =
      (Catalog.find? types name).map (TypeDecl.renamed r) := by
  have hname : (fun t : TypeDecl => t.name == r name) ∘ TypeDecl.renamed r =
      fun t => t.name == name := by
    funext t
    exact hr.beq_eq
  show (types.map (TypeDecl.renamed r)).find? (·.name == r name) = _
  rw [List.find?_map, hname]
  rfl

/-! ### Edges -/

theorem TypeDecl.implements_renamed (t : TypeDecl) (name : TypeRef) :
    (t.renamed r).implements (r name) = t.implements name := by
  rw [Bool.eq_iff_iff, implements, implements, List.contains_iff_mem, List.contains_iff_mem]
  exact List.mem_map_of_injective hr

/-- An interface that another one brings in is brought in by the renamed one. -/
theorem TypeDecl.implies_renamed (t : TypeDecl) (interface : TypeRef) :
    (t.renamed r).implies (types.map (TypeDecl.renamed r)) (r interface) =
      t.implies types interface := by
  show (t.interfaces.map r).any _ = t.interfaces.any _
  rw [List.any_map]
  refine congrArg (List.any _) (funext fun other => ?_)
  have hinterface : (r other != r interface) = (other != interface) :=
    bne_renamed hr other interface
  have hself : (r other != (t.renamed r).name) = (other != t.name) :=
    bne_renamed hr other t.name
  rw [Function.comp_apply, hinterface, hself, find?_renamed hr]
  cases Catalog.find? types other with
  | none => rfl
  | some d => exact congrArg (_ && ·) (implements_renamed hr d interface)

theorem TypeDecl.drawnBase?_renamed (t : TypeDecl) :
    (t.renamed r).drawnBase? (Selection.of (types.map (TypeDecl.renamed r)) filter) =
      (t.drawnBase? (Selection.of types filter)).map r := by
  show (t.base.map r).filter _ = (t.base.filter _).map r
  cases t.base with
  | none => rfl
  | some base =>
      have hself : (r base != (t.renamed r).name) = (base != t.name) :=
        bne_renamed hr base t.name
      simp only [Option.map_some, Option.filter, hself, Selection.contains_renamed hr]
      split
      · rfl
      · rfl

theorem TypeDecl.drawnInterfaces_renamed (t : TypeDecl) :
    (t.renamed r).drawnInterfaces (Selection.of (types.map (TypeDecl.renamed r)) filter) =
      (t.drawnInterfaces (Selection.of types filter)).map r := by
  have hkept : (fun i => i != (t.renamed r).name &&
        (Selection.of (types.map (TypeDecl.renamed r)) filter).contains i) ∘ r =
      fun i => i != t.name && (Selection.of types filter).contains i := by
    funext i
    have hself : (r i != (t.renamed r).name) = (i != t.name) := bne_renamed hr i t.name
    rw [Function.comp_apply, hself, Selection.contains_renamed hr]
  show firsts id ((t.interfaces.map r).filter _) = (firsts id (t.interfaces.filter _)).map r
  rw [List.filter_map, hkept]
  apply firsts_map_of_injective hr
  intro i
  rfl

theorem Entry.edges_renamed (e : Entry) :
    (e.renamed r).edges (types.map (TypeDecl.renamed r))
        (Selection.of (types.map (TypeDecl.renamed r)) filter) =
      (e.edges types (Selection.of types filter)).map (Edge.renamed r) := by
  by_cases hshape : e.shape = .enumBlock
  · rw [edges_enum hshape, edges_enum (e := e.renamed r) hshape, List.map_nil]
  · have hbase := TypeDecl.drawnBase?_renamed hr types filter e.decl
    have hinterfaces := TypeDecl.drawnInterfaces_renamed hr types filter e.decl
    have hdirect : (fun i => !(e.renamed r).decl.implies (types.map (TypeDecl.renamed r)) i) ∘ r =
        fun i => !e.decl.implies types i := by
      funext i
      exact congrArg not (TypeDecl.implies_renamed hr types e.decl i)
    rw [edges_eq hshape, edges_eq (e := e.renamed r) hshape]
    show ((e.decl.renamed r).drawnBase? _).toList.map _ ++
      (((e.decl.renamed r).drawnInterfaces _).filter _).map _ = _
    rw [hbase, hinterfaces, List.filter_map, hdirect, List.map_append, List.map_map, List.map_map,
      List.map_map, Option.toList_map, List.map_map]
    rfl

end selection

/-- **Names are opaque.**  A renaming that keeps different names apart renames the entries of the
selection and both ends of every edge; the order and kinds of these, the words that open a block and
the lines of its body stay as they are. -/
theorem drawing_renamed (r : TypeRef → TypeRef) (hr : Function.Injective r)
    (types : List TypeDecl) (filter : Filter) :
    (Selection.of (types.map (TypeDecl.renamed r)) filter).entries =
      (Selection.of types filter).entries.map (Entry.renamed r) ∧
    ∀ e ∈ (Selection.of types filter).entries,
      (e.renamed r).name = r e.name ∧
      (e.renamed r).keyword = e.keyword ∧
      (e.renamed r).body filter = e.body filter ∧
      (e.renamed r).edges (types.map (TypeDecl.renamed r))
          (Selection.of (types.map (TypeDecl.renamed r)) filter) =
        (e.edges types (Selection.of types filter)).map (Edge.renamed r) := by
  refine ⟨Selection.entries_renamed hr types filter, ?_⟩
  intro e _
  exact ⟨rfl, rfl, rfl, Entry.edges_renamed hr types filter e⟩

/-- The name written backwards. -/
def backwards (name : TypeRef) : TypeRef := String.ofList name.toList.reverse

/-- A hull that lists itself, lists an interface twice, and lists one that is not declared. -/
def hull : Entry where
  decl := { name := "Hull", base := some "Hulls", interfaces := ["H", "", "Hull", "Keel", "H"] }
  shape := .classBlock

/-- Names that begin with one another, one of them empty and one declared twice, in a cycle. -/
def hulls : List TypeDecl :=
  [hull.decl,
    { name := "H", kind := .interfaceType, interfaces := ["H"] },
    { name := "", kind := .interfaceType, interfaces := ["H", "Hull"] },
    { name := "Hulls", isAbstract := true, base := some "Hull" },
    { name := "Hull", kind := .enumType }]

theorem drawing_renamed_hulls :
    Function.Injective backwards ∧ hull ∈ (Selection.of hulls .publicOnly).entries ∧
      (Selection.of (hulls.map (TypeDecl.renamed backwards)) .publicOnly).entries =
        (Selection.of hulls .publicOnly).entries.map (Entry.renamed backwards) ∧
      (hull.renamed backwards).edges (hulls.map (TypeDecl.renamed backwards))
          (Selection.of (hulls.map (TypeDecl.renamed backwards)) .publicOnly) =
        [⟨"lluH", "slluH", .extension⟩, ⟨"lluH", "", .implementation⟩] := by
  have hinjective : Function.Injective backwards := by
    intro a b hab
    have hlist : a.toList.reverse = b.toList.reverse := String.ofList_injective hab
    exact String.toList_inj.mp (List.reverse_injective hlist)
  have hhull : hull ∈ (Selection.of hulls .publicOnly).entries := by decide
  obtain ⟨hentries, hdrawn⟩ := drawing_renamed backwards hinjective hulls .publicOnly
  obtain ⟨-, -, -, hedges⟩ := hdrawn hull hhull
  refine ⟨hinjective, hhull, hentries, hedges.trans ?_⟩
  decide

end ClassDiagram
