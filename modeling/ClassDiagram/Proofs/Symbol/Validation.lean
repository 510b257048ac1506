import ClassDiagram.Proofs.Symbol.Loading
import ClassDiagram.Proofs.Symbol.Lookup

/-! # Declarations without a name

A document is read to its end before its declarations are added, so that a refusal of the document
comes before that of a declaration, wherever the two stand.  Adding stops at the first declaration
without a name; as all others before it have been added, their number is its position
(`addAll_of_nameless`).  Collecting declarations leaves out those without a name and keeps the
others as if they had been added alone (`addAll_named`).

`load_validates` puts the two together: where no name is missing, loading and collecting give the
same graph. -/

namespace ClassDiagram.Graph

/-! ### Adding declarations -/

theorem size_of_add {g g' : Graph} {t : TypeDecl} (h : g.add t = .ok g') :
    g'.size = g.size + 1 := by
  have hlength := congrArg List.length (add_eq_ok h).2.1
  rw [List.length_append, List.length_singleton] at hlength
  exact hlength

/-- The first declaration without a name is refused with its position. -/
theorem addAll_of_nameless {g : Graph} {types : List TypeDecl} {k : Nat}
    (h : types.findIdx? (·.name == "") = some k) :
    g.addAll types = .error (.nameless (g.size + k)) := by
  induction types generalizing g k with
  | nil => cases h
  | cons t types ih =>
      rw [List.findIdx?_cons] at h
      rcases g.add_cases t with ⟨hname, hadd, -⟩ | ⟨hname, g', hadd, -⟩
      · rw [if_pos (beq_iff_eq.mpr hname)] at h
        cases h
        rw [addAll_cons, hadd]
        rfl
      · rw [if_neg (by rwa [beq_iff_eq])] at h
        obtain ⟨k', hk', rfl⟩ := Option.map_eq_some_iff.mp h
        calc g.addAll (t :: types)
            _ = g'.addAll types := by rw [addAll_cons, hadd]; rfl
            _ = .error (.nameless (g'.size + k')) := ih hk'
            _ = .error (.nameless (g.size + (k' + 1))) := by
                rw [size_of_add hadd, Nat.add_assoc, Nat.add_comm 1]

/-- Declarations that are added one by one, the refused ones left out, are those with a name. -/
theorem addAll_named (g : Graph) (types : List TypeDecl) :
    g.addAll (types.filter (·.name ≠ "")) = .ok ((types.map Action.add).foldl perform g) := by
  induction types generalizing g with
  | nil => rfl
  | cons t types ih =>
      rw [List.map_cons, List.foldl_cons]
      rcases g.add_cases t with ⟨hname, -, hstep⟩ | ⟨hname, g', hadd, hstep, -⟩
      · rw [List.filter_cons_of_neg (by simpa using hname), hstep, ih]
      · rw [List.filter_cons_of_pos (by simpa using hname), addAll_cons, hadd, hstep]
        exact ih g'

/-- Collecting declarations is adding them one by one. -/
theorem ofList_eq_build (types : List TypeDecl) : ofList types = build (types.map .add) := by
  rw [ofList, build, List.foldl_map]
  congr 1
  funext g t
  rw [perform]
  cases g.add t <;> rfl

theorem addAll_eq_ofList {types : List TypeDecl} (hnamed : ∀ t ∈ types, t.name ≠ "") :
    empty.addAll types = .ok (ofList types) := by
  have hall : types.filter (·.name ≠ "") = types :=
    List.filter_eq_self.mpr fun t ht => decide_eq_true (hnamed t ht)
  have hadd := addAll_named empty types
  rw [hall] at hadd
  rw [hadd, ofList_eq_build, build]

theorem toList_ofList (types : List TypeDecl) :
    (ofList types).toList = types.filter (·.name ≠ "") := by
  have hnamed : ∀ t ∈ types.filter (·.name ≠ ""), t.name ≠ "" :=
    fun t ht => of_decide_eq_true (List.mem_filter.mp ht).2
  obtain ⟨g, hadd, hlist⟩ := empty.exists_addAll hnamed
  rw [addAll_named] at hadd
  rw [ofList_eq_build, build, Except.ok.inj hadd, hlist]
  rfl

/-- If a name is missing, there is a first declaration without one. -/
theorem exists_first_nameless {types : List TypeDecl} (h : ∃ t ∈ types, t.name = "") :
    ∃ k, ∃ hk : k < types.length, types[k].name = "" ∧
      (∀ j (hj : j < k), types[j].name ≠ "") ∧ types.findIdx? (·.name == "") = some k := by
  cases hfound : types.findIdx? (·.name == "") with
  | none =>
      obtain ⟨t, ht, hname⟩ := h
      exact absurd (beq_iff_eq.mpr hname) (by simpa using List.findIdx?_eq_none_iff.mp hfound t ht)
  | some k =>
      obtain ⟨hk, hname, hbefore⟩ := List.findIdx?_eq_some_iff_getElem.mp hfound
      refine ⟨k, hk, beq_iff_eq.mp hname, fun j hj => ?_, rfl⟩
      simpa using hbefore j hj

/-! ### Loading texts -/

theorem ofText_of_read {text : String} {types : List TypeDecl}
    (h : readString readDocument text = .ok types) : ofText text = empty.addAll types := by
  rw [ofText, h]
  rfl

/-- A text that is no document is refused before any declaration is looked at. -/
theorem ofText_of_unread {text : String}
    (h : ∀ types, readString readDocument text ≠ .ok types) :
    ∃ m line column, ofText text = .error (.parse m line column) := by
  rcases readDocument_inStep (Text.bytes text) with
    ⟨types, s, t, hs, -⟩ | ⟨cause, p, q, s, t, hs, -⟩
  · refine absurd ?_ (h types)
    rw [readString, readFrom, hs]
  · rw [ofText, readString, readFrom_of_refused hs]
    exact ⟨_, _, _, rfl⟩

/-- **Loading refuses what collecting leaves out.**  The text of a document is loaded if and only if
all its declarations have names, and then as the graph that is collected from them; otherwise the
first without a name is reported with its position.  What is no document is refused as such, and
collecting is adding the declarations with names. -/
theorem load_validates :
    (∀ text types, readString readDocument text = .ok types →
      ((∃ g, ofText text = .ok g) ↔ ∀ t ∈ types, t.name ≠ "") ∧
      ((∀ t ∈ types, t.name ≠ "") →
        ofText text = .ok (ofList types) ∧ ofText text = .ok (build (types.map .add))) ∧
      ((∃ t ∈ types, t.name = "") →
        ∃ k, ∃ hk : k < types.length, types[k].name = "" ∧
          (∀ j (hj : j < k), types[j].name ≠ "") ∧
          ofText text = .error (.invalidSymbol
            ("type #" ++ Decimal.digitsText k ++ " has an empty name")))) ∧
    (∀ text, (∀ types, readString readDocument text ≠ .ok types) →
      ∃ m line column, ofText text = .error (.parse m line column)) ∧
    ∀ types, empty.addAll (types.filter (·.name ≠ "")) = .ok (ofList types) ∧
      (ofList types).toList = types.filter (·.name ≠ "") := by
  refine ⟨fun text types hread => ?_, fun text => ofText_of_unread, fun types => ?_⟩
  · have hloaded (hnamed : ∀ t ∈ types, t.name ≠ "") : ofText text = .ok (ofList types) := by
      rw [ofText_of_read hread, addAll_eq_ofList hnamed]
    refine ⟨⟨fun hok t ht hname => ?_, fun hnamed => ⟨_, hloaded hnamed⟩⟩,
      fun hnamed => ⟨hloaded hnamed, ofList_eq_build types ▸ hloaded hnamed⟩, fun hnameless => ?_⟩
    · obtain ⟨g, hload⟩ := hok
      obtain ⟨k, -, -, -, hfirst⟩ := exists_first_nameless ⟨t, ht, hname⟩
      rw [ofText_of_read hread, addAll_of_nameless hfirst] at hload
      cases hload
    · obtain ⟨k, hk, hname, hbefore, hfirst⟩ := exists_first_nameless hnameless
      refine ⟨k, hk, hname, hbefore, ?_⟩
      rw [ofText_of_read hread, addAll_of_nameless hfirst, show empty.size = 0 from rfl,
        Nat.zero_add]
      rfl
  · refine ⟨?_, toList_ofList types⟩
    rw [addAll_named, ofList_eq_build, build]

/-- A berth without a name between two others. -/
def berths : List TypeDecl := [{ name := "North" }, { name := "" }, { name := "South" }]

/-- The berths are refused for the second name.  A list that does not end, or a kind that is no
word, is refused first, although it comes later. -/
theorem load_validates_berths :
    ofText "[[[\"North\"],[\"\"],[\"South\"]]]" =
      .error (.invalidSymbol "type #1 has an empty name") ∧
    (∃ m line column,
      ofText "[[[\"North\"],[\"\"],[\"South\"]" = .error (.parse m line column)) ∧
    (∃ m line column,
      ofText "[[[\"North\"],[\"\"],[\"South\",7]]]" = .error (.parse m line column)) ∧
    ofText "[[[\"North\"],[\"South\"]]]" = .ok (ofList [berths[0], berths[2]]) ∧
    (ofList berths).toList = [berths[0], berths[2]] := by
  obtain ⟨hdocument, hrefused, hcollected⟩ := load_validates
  have hberths : readString readDocument "[[[\"North\"],[\"\"],[\"South\"]]]" = .ok berths := by
    decide +kernel
  have hnamed : readString readDocument "[[[\"North\"],[\"South\"]]]" =
      .ok [berths[0], berths[2]] := by
    decide +kernel
  have hopen : readString readDocument "[[[\"North\"],[\"\"],[\"South\"]" =
      .error (.parse "EOF while parsing a list" 1 26) := by
    decide +kernel
  have hkind : readString readDocument "[[[\"North\"],[\"\"],[\"South\",7]]]" =
      .error (.parse "expected value" 1 27) := by
    decide +kernel
  refine ⟨?_, hrefused _ fun types hread => ?_, hrefused _ fun types hread => ?_, ?_,
    (hcollected berths).2⟩
  · obtain ⟨k, hk, hname, hbefore, herror⟩ :=
      (hdocument _ _ hberths).2.2 ⟨berths[1], by decide, rfl⟩
    match k with
    | 0 => exact absurd hname (show "North" ≠ "" by decide)
    | 1 => exact herror
    | k + 2 => exact absurd rfl (hbefore 1 (by omega))
  · rw [hopen] at hread
    cases hread
  · rw [hkind] at hread
    cases hread
  · exact ((hdocument _ _ hnamed).2.1 (by decide)).1

end ClassDiagram.Graph
