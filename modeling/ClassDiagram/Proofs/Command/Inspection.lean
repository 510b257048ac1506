import ClassDiagram.Command.Report
import ClassDiagram.Proofs.Diagram.Reading
import Mathlib.Algebra.Ring.Nat

/-! # Inspection and drawing agree

The report of an inspection is made without drawing anything.  Still each of its summaries describes
one block of the diagram (`TypeSummary.Describes`), and the summaries stand in the order of the
blocks (`describes_blocks`).  So the number of lines of the document can be read off the report, and
with it the number of line breaks if no string that is shown has one (`inspect_draw`). -/

namespace ClassDiagram

open Text (Unbroken)

variable {κ : Type} [Catalog κ]

/-- The summary says how the block opens, how many lines it has between its braces, and what its
edges say. -/
structure TypeSummary.Describes (s : TypeSummary) (b : Block) : Prop where
  keyword_eq : s.keyword = b.keyword
  name_eq : s.name = b.name
  memberLines_eq : s.memberLines = b.body.length
  edges_eq : s.edges.map (s.keyword ++ " " ++ s.name ++ " " ++ ·) = b.edgeLines
  lines_eq : b.lines = (s.keyword ++ " " ++ s.name ++ " \x7b") :: b.body ++ "\x7d" ::
    s.edges.map (s.keyword ++ " " ++ s.name ++ " " ++ ·)

/-- The number of lines that a summary promises: two for the braces, and the others. -/
def TypeSummary.lineCount (s : TypeSummary) : Nat := 2 + s.memberLines + s.edges.length

/-! ### One type -/

section entry
variable (catalog : κ) (selection : Selection) (e : Entry)

/-- Behind the words that open the block, the clauses of a summary are the lines of the edges. -/
theorem Entry.summary_edges :
    (e.summary catalog selection).edges.map (e.keyword ++ " " ++ e.name ++ " " ++ ·) =
      (e.block catalog selection).edgeLines := by
  show ((e.edges catalog selection).map Edge.clause).map _ =
    (e.edges catalog selection).map (Edge.line · e.keyword)
  rw [List.map_map]
  apply List.map_congr_left
  intro r hr
  have hsource : r.source = e.name := (Entry.mem_edges.mp hr).2.1
  rw [Function.comp_apply, Edge.line, hsource]

theorem Entry.summary_describes :
    (e.summary catalog selection).Describes (e.block catalog selection) where
  keyword_eq := rfl
  name_eq := rfl
  memberLines_eq := rfl
  edges_eq := e.summary_edges catalog selection
  lines_eq := by
    show (e.block catalog selection).header :: (e.block catalog selection).body ++
      Block.footer :: (e.block catalog selection).edgeLines = _
    rw [← e.summary_edges catalog selection]
    rfl

end entry

theorem TypeSummary.Describes.length_lines {s : TypeSummary} {b : Block} (h : s.Describes b) :
    b.lines.length = s.lineCount := by
  have hmembers := h.memberLines_eq
  rw [h.lines_eq]
  simp only [List.cons_append, List.length_cons, List.length_append, List.length_map, lineCount]
  omega

/-! ### Whole reports -/

/-- The summaries describe the blocks one by one. -/
theorem describes_blocks (theme : String) (catalog : κ) (filter : Filter) :
    List.Forall₂ TypeSummary.Describes (inspect catalog filter).types
      (draw theme catalog filter).blocks := by
  have hsame : List.Forall₂ (fun e e' => TypeSummary.Describes
      (e.summary catalog (Selection.of catalog filter))
      (Entry.block catalog (Selection.of catalog filter) e'))
      (Selection.of catalog filter).entries (Selection.of catalog filter).entries :=
    List.forall₂_same.mpr fun e _ => e.summary_describes catalog _
  show List.Forall₂ _ (List.map _ _) (List.map _ _)
  rw [List.forall₂_map_left_iff, List.forall₂_map_right_iff]
  exact hsame

theorem length_flatMap_lines {summaries : List TypeSummary} {blocks : List Block}
    (h : List.Forall₂ TypeSummary.Describes summaries blocks) :
    (blocks.flatMap Block.lines).length = (summaries.map TypeSummary.lineCount).sum := by
  induction h with
  | nil => rfl
  | cons hfirst _ ih =>
      rw [List.flatMap_cons, List.length_append, hfirst.length_lines, ih, List.map_cons,
        List.sum_cons]

/-- Four lines frame the blocks. -/
theorem length_draw_lines (theme : String) (catalog : κ) (filter : Filter) :
    (draw theme catalog filter).lines.length =
      4 + ((inspect catalog filter).types.map TypeSummary.lineCount).sum := by
  have hblocks := length_flatMap_lines (describes_blocks theme catalog filter)
  have hopening : (Diagram.opening (draw theme catalog filter).theme).length = 3 := rfl
  rw [Diagram.lines, List.length_append, List.length_append, hblocks, hopening,
    List.length_singleton]
  omega

/-- The number in the report is the number of its summaries. -/
theorem length_types (catalog : κ) (filter : Filter) :
    (inspect catalog filter).types.length = (inspect catalog filter).rendered :=
  List.length_map _

/-- Of what is declared some is drawn. -/
theorem rendered_le_declared (catalog : κ) (filter : Filter) :
    (inspect catalog filter).rendered ≤ (inspect catalog filter).declared := by
  have hfirsts := (firsts_sublist TypeDecl.name (Catalog.types catalog)).length_le
  have hentries := List.length_filterMap_le (TypeDecl.entry? filter)
    (firsts TypeDecl.name (Catalog.types catalog))
  rw [← Selection.entries_of] at hentries
  exact hentries.trans hfirsts

/-- **Inspection and drawing agree.**  The report counts the blocks and the declarations, and its
summaries describe the blocks of the document in order.  If no string that is shown has a line
break, the report tells how many the text has. -/
theorem inspect_draw (theme : String) (catalog : κ) (filter : Filter) :
    (inspect catalog filter).rendered = (draw theme catalog filter).blocks.length ∧
    (inspect catalog filter).rendered ≤ (inspect catalog filter).declared ∧
    (inspect catalog filter).declared = (Catalog.types catalog).length ∧
    List.Forall₂ TypeSummary.Describes (inspect catalog filter).types
      (draw theme catalog filter).blocks ∧
    render theme catalog filter = Text.unlines (Diagram.opening theme ++
      (draw theme catalog filter).blocks.flatMap Block.lines ++ [Diagram.ending]) ∧
    (Unbroken theme →
      (∀ e ∈ (Selection.of catalog filter).entries, ∀ w ∈ e.words filter, Unbroken w) →
      (render theme catalog filter).toList.count '\n' =
        4 + ((inspect catalog filter).types.map
          fun s => 2 + s.memberLines + s.edges.length).sum) := by
  have hdescribes := describes_blocks theme catalog filter
  have hrendered := (length_types catalog filter).symm.trans hdescribes.length_eq
  refine ⟨hrendered, rendered_le_declared catalog filter, rfl, hdescribes, rfl, ?_⟩
  intro htheme hwords
  have hcount := Text.count_unlines (unbroken_draw htheme hwords)
  exact hcount.trans (length_draw_lines theme catalog filter)

/-- A dock with a member that is drawn and one that is not, and a crane that stands on it. -/
def docks : List TypeDecl :=
  [{ name := "Dock", members := [.field { name := "depth", type := "int" },
      .field { name := "owner", type := "Port", visibility := .priv }] },
    { name := "Crane", kind := .interfaceType, base := some "Dock" },
    { name := "Dock", kind := .enumType, enumMembers := ["line\nbreak"] },
    { name := "Signal", kind := .enumType, enumMembers := ["Stop", "Go"] }]

theorem inspect_draw_docks :
    Unbroken defaultTheme ∧
      (∀ e ∈ (Selection.of docks .publicOnly).entries, ∀ w ∈ e.words .publicOnly, Unbroken w) ∧
      (render defaultTheme docks .publicOnly).toList.count '\n' = 14 := by
  have htheme : Unbroken defaultTheme := by decide
  have hwords : ∀ e ∈ (Selection.of docks .publicOnly).entries,
      ∀ w ∈ e.words .publicOnly, Unbroken w := by decide
  have hcount := (inspect_draw defaultTheme docks .publicOnly).2.2.2.2.2 htheme hwords
  exact ⟨htheme, hwords, hcount.trans (by decide)⟩

end ClassDiagram
