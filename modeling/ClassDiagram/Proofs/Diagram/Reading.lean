import ClassDiagram.Proofs.Diagram.Narrowing
import ClassDiagram.Proofs.Text.Reading
import Mathlib.Data.List.TakeWhile

/-! # Reading diagrams

The text of a diagram is not escaped, and names may hold blanks, braces and keywords.  Still a
diagram can be read from its text if no string breaks a line, no type name ends like a header and no
line of a body is the closing brace (`Diagram.Legible`).  The reader `Diagram.read?` tells lines
apart by where they stand: a body goes on up to the closing brace, and after it come edges up to a
line that ends with an opening brace.  It reads every legible diagram back (`Diagram.read?_text`).

Diagrams that are drawn from legible strings are legible (`Legible.draw`), so that equal texts come
from equal diagrams (`blocks_of_render`). -/

namespace ClassDiagram

open Text (Unbroken unbroken_append)

/-! ### The reader -/

/-- The edge that a clause says of its source. -/
def Edge.readClause? (source : TypeRef) (clause : String) : Option Edge :=
  [EdgeKind.extension, EdgeKind.implementation].findSome? fun kind =>
    (Text.after? (kind.word ++ " ") clause).map (⟨source, ·, kind⟩)

/-- The edge of a line that names its source like the source's block. -/
def Edge.read? (keyword : String) (source : TypeRef) (line : String) : Option Edge :=
  (Text.after? (keyword ++ " " ++ source ++ " ") line).bind (Edge.readClause? source)

namespace Block

/-- The words that can open a block. -/
def keywords : List String := ["abstract class", "class", "interface", "enum"]

/-- The keyword and the name in the line that opens a block. -/
def readHeader? (line : String) : Option (String × TypeRef) :=
  keywords.findSome? fun keyword =>
    (Text.after? (keyword ++ " ") line).bind fun opened =>
      (Text.before? " \x7b" opened).map (keyword, ·)

/-- Whether the edges of a block go on with this line, which then does not open a block. -/
def isEdgeLine (line : String) : Bool := line.toList.getLast? != some '{'

/-- The block at the start of some lines, and the lines that are left. -/
def read? : List String → Option (Block × List String)
  | [] => none
  | line :: rest => do
    let (keyword, name) ← readHeader? line
    match rest.dropWhile (· != footer) with
    | [] => none
    | _ :: tail =>
      let edges ← (tail.takeWhile isEdgeLine).mapM (Edge.read? keyword name)
      let body := rest.takeWhile (· != footer)
      return (⟨keyword, name, body, edges⟩, tail.dropWhile isEdgeLine)

/-- A block takes up some of the lines. -/
theorem progress_read? : Text.Progress read? := by
  intro lines b left h
  cases lines with
  | nil => cases h
  | cons line rest =>
      simp only [read?, bind, Option.bind_eq_some_iff] at h
      obtain ⟨⟨keyword, name⟩, -, h⟩ := h
      have hbody := List.length_dropWhile_le (· != footer) rest
      cases htail : rest.dropWhile (· != footer) with
      | nil => simp only [htail, reduceCtorEq] at h
      | cons line' tail =>
          simp only [htail, Option.bind_eq_some_iff, pure, Option.some.injEq, Prod.mk.injEq] at h
          obtain ⟨edges, -, -, rfl⟩ := h
          have hedges := List.length_dropWhile_le isEdgeLine tail
          rw [htail, List.length_cons] at hbody
          rw [List.length_cons]
          omega

end Block

/-- The diagram of a text. -/
def Diagram.read? (text : String) : Option Diagram :=
  match Text.lines text with
  | "@startuml" :: line :: "" :: rest => do
    let theme ← Text.after? "!theme " line
    let lines ← [ending].isSuffixOf? rest
    let blocks ← Text.readAll Block.read? Block.progress_read? lines
    return ⟨theme, blocks⟩
  | _ => none

/-! ### Legible diagrams -/

/-- The strings of a block do not break lines, and none ends the header or the body too early. -/
structure Block.Legible (b : Block) : Prop where
  keyword_mem : b.keyword ∈ Block.keywords
  name_unbroken : Unbroken b.name
  body_unbroken : ∀ line ∈ b.body, Unbroken line
  body_open : Block.footer ∉ b.body
  source_eq : ∀ r ∈ b.edges, r.source = b.name
  target_unbroken : ∀ r ∈ b.edges, Unbroken r.target
  target_end : ∀ r ∈ b.edges, r.target.toList.getLast? ≠ some '{'

/-- The theme and the blocks can be read from the text. -/
structure Diagram.Legible (d : Diagram) : Prop where
  theme_unbroken : Unbroken d.theme
  blocks : ∀ b ∈ d.blocks, b.Legible

/-! ### Edges -/

/-- A search among choices that exclude each other finds the right one. -/
theorem findSome?_eq_some_of_unique {α β : Type} {f : α → Option β} {as : List α} {a : α} {b : β}
    (ha : a ∈ as) (hsome : f a = some b) (hnone : ∀ a' ∈ as, a' ≠ a → f a' = none) :
    as.findSome? f = some b := by
  induction as with
  | nil => cases ha
  | cons a' as ih =>
      rw [List.findSome?_cons]
      by_cases heq : a' = a
      · rw [heq, hsome]
      · rw [hnone a' List.mem_cons_self heq]
        have ha' := (List.mem_cons.mp ha).resolve_left (Ne.symm heq)
        exact ih ha' fun a'' ha'' => hnone a'' (List.mem_cons_of_mem a' ha'')

namespace Edge

theorem readClause?_clause (r : Edge) : readClause? r.source r.clause = some r := by
  obtain ⟨source, target, kind⟩ := r
  refine findSome?_eq_some_of_unique (a := kind) (by cases kind <;> decide) ?_ fun kind' _ hne => ?_
  · have hsome : Text.after? (kind.word ++ " ") (clause ⟨source, target, kind⟩) = some target :=
      Text.after?_eq_some_iff.mpr rfl
    rw [hsome]
    rfl
  · -- the two verbs differ in their first character
    have hnone : Text.after? (kind'.word ++ " ") (clause ⟨source, target, kind⟩) = none := by
      refine Text.after?_eq_none (by cases kind' <;> rfl) ?_
      cases kind <;> cases kind' <;> simp [clause, EdgeKind.word] at hne ⊢
    rw [hnone]
    rfl

/-- An edge is read back from its line. -/
theorem read?_line (r : Edge) (keyword : String) :
    read? keyword r.source (r.line keyword) = some r := by
  have hclause : Text.after? (keyword ++ " " ++ r.source ++ " ") (r.line keyword) = some r.clause :=
    Text.after?_eq_some_iff.mpr rfl
  rw [read?, hclause, Option.bind_some, readClause?_clause]

/-- The line of an edge ends like its target, or with a blank if the target is empty. -/
theorem getLast?_line_ne {r : Edge} (keyword : String) (h : r.target.toList.getLast? ≠ some '{') :
    (r.line keyword).toList.getLast? ≠ some '{' := by
  have hline : (r.line keyword).toList =
      (keyword ++ " " ++ r.source ++ " " ++ r.kind.word).toList ++ [' '] ++ r.target.toList := by
    simp [line, clause]
  rw [hline, List.getLast?_append, List.getLast?_concat]
  cases hlast : r.target.toList.getLast? with
  | none => simp
  | some c => rw [hlast] at h; exact h

end Edge

theorem mapM_map_eq_some {α β : Type} {f : β → Option α} {g : α → β} {as : List α}
    (h : ∀ a ∈ as, f (g a) = some a) : (as.map g).mapM f = some as := by
  induction as with
  | nil => rfl
  | cons a as ih =>
      rw [List.map_cons, List.mapM_cons, h a List.mem_cons_self,
        ih fun a' ha' => h a' (List.mem_cons_of_mem a ha')]
      rfl

/-! ### Blocks -/

namespace Block

theorem head?_keywords : ∀ keyword ∈ keywords, keyword.toList.head?.isSome = true := by
  decide

theorem head?_keywords_ne : ∀ keyword ∈ keywords, ∀ keyword' ∈ keywords, keyword' ≠ keyword →
    keyword'.toList.head? ≠ keyword.toList.head? := by
  decide

variable {b : Block}

/-- What starts with a keyword has the first character of the keyword. -/
theorem head?_append {keyword : String} (h : keyword ∈ keywords) (rest : String) :
    (keyword ++ rest).toList.head? = keyword.toList.head? := by
  rw [String.toList_append, List.head?_append, Option.or_of_isSome (head?_keywords keyword h)]

theorem readHeader?_header (h : b.keyword ∈ keywords) :
    readHeader? b.header = some (b.keyword, b.name) := by
  have hheader : b.header = b.keyword ++ " " ++ (b.name ++ " \x7b") := by
    simp only [header, String.append_assoc]
  refine findSome?_eq_some_of_unique h ?_ fun keyword hkeyword hne => ?_
  · rw [Text.after?_eq_some_iff.mpr hheader, Option.bind_some, Text.before?_eq_some_iff.mpr rfl]
    rfl
  · -- keywords differ in their first character, although one of them ends with another one
    have hnone : Text.after? (keyword ++ " ") b.header = none := by
      refine Text.after?_eq_none ?_ ?_
      · rw [head?_append hkeyword]
        exact head?_keywords keyword hkeyword
      · rw [head?_append hkeyword, hheader, String.append_assoc, head?_append h]
        exact head?_keywords_ne b.keyword h keyword hkeyword hne
    rw [hnone]
    rfl

theorem isEdgeLine_header (b : Block) : isEdgeLine b.header = false := by
  have hlast : b.header.toList.getLast? = some '{' := by
    have hheader : b.header.toList = (b.keyword ++ " " ++ b.name ++ " ").toList ++ ['{'] := by
      simp [header]
    rw [hheader, List.getLast?_concat]
  simp [isEdgeLine, hlast]

theorem isEdgeLine_line (h : b.Legible) {r : Edge} (hr : r ∈ b.edges) :
    isEdgeLine (r.line b.keyword) = true := by
  rw [isEdgeLine, bne_iff_ne]
  exact Edge.getLast?_line_ne b.keyword (h.target_end r hr)

/-- A block is read back if the lines after it do not go on with edges. -/
theorem read?_append (h : b.Legible) {left : List String}
    (hleft : ∀ line ∈ left.head?, isEdgeLine line = false) :
    read? (b.lines ++ left) = some (b, left) := by
  have hlines : b.lines ++ left = b.header :: (b.body ++ footer :: (b.edgeLines ++ left)) := by
    simp [lines]
  have hbody : ∀ line ∈ b.body, (line != footer) = true := fun line hline => by
    rw [bne_iff_ne]
    exact fun heq => h.body_open (heq ▸ hline)
  have hedges : ∀ line ∈ b.edgeLines, isEdgeLine line = true := fun line hline => by
    obtain ⟨r, hr, rfl⟩ := List.mem_map.mp hline
    exact isEdgeLine_line h hr
  have hread : b.edgeLines.mapM (Edge.read? b.keyword b.name) = some b.edges :=
    mapM_map_eq_some fun r hr => h.source_eq r hr ▸ r.read?_line b.keyword
  have hstop : left.takeWhile isEdgeLine = [] ∧ left.dropWhile isEdgeLine = left := by
    cases left with
    | nil => exact ⟨rfl, rfl⟩
    | cons line left =>
        have hline := hleft line rfl
        exact ⟨List.takeWhile_cons_of_neg (by simp [hline]),
          List.dropWhile_cons_of_neg (by simp [hline])⟩
  -- every run ends where the next part begins: the body at the brace, the edges at `left`
  rw [hlines, read?, readHeader?_header h.keyword_mem]
  simp only [List.takeWhile_append_of_pos hbody, List.dropWhile_append_of_pos hbody,
    List.takeWhile_append_of_pos hedges, List.dropWhile_append_of_pos hedges, hstop, bind,
    Option.bind_some, bne_self_eq_false, List.takeWhile_cons_of_neg, List.dropWhile_cons_of_neg,
    Bool.false_eq_true, not_false_eq_true, List.append_nil, hread, pure]

/-- Blocks are followed by nothing or by a header, and so are all read back. -/
theorem readAll_lines {blocks : List Block} (h : ∀ b ∈ blocks, b.Legible) :
    Text.readAll read? progress_read? (blocks.flatMap lines) = some blocks := by
  induction blocks with
  | nil => exact Text.readAll_nil
  | cons b blocks ih =>
      have hnext : ∀ line ∈ (blocks.flatMap lines).head?, isEdgeLine line = false := by
        cases blocks with
        | nil => nofun
        | cons b' blocks =>
            rintro line ⟨⟩
            exact b'.isEdgeLine_header
      have hread := read?_append (h b List.mem_cons_self) hnext
      rw [List.flatMap_cons, Text.readAll_of_item hread,
        ih fun b' hb' => h b' (List.mem_cons_of_mem b hb')]
      rfl

end Block

/-! ### Whole diagrams -/

theorem EdgeKind.unbroken_word (kind : EdgeKind) : Unbroken kind.word := by
  cases kind <;> decide

namespace Block

theorem unbroken_keywords : ∀ keyword ∈ keywords, Unbroken keyword := by
  decide

/-- The lines of a block break only where one of its strings or lines does. -/
theorem unbroken_lines {b : Block} (hkeyword : b.keyword ∈ keywords) (hname : Unbroken b.name)
    (hbody : ∀ line ∈ b.body, Unbroken line) (hsource : ∀ r ∈ b.edges, r.source = b.name)
    (htarget : ∀ r ∈ b.edges, Unbroken r.target) : ∀ line ∈ b.lines, Unbroken line := by
  have hopened := unbroken_keywords b.keyword hkeyword
  have hblank : Unbroken " " := by decide
  intro line hline
  rw [lines, List.cons_append, List.mem_cons, List.mem_append, List.mem_cons] at hline
  rcases hline with rfl | hline | rfl | hline
  · have hbrace : Unbroken " \x7b" := by decide
    simp only [header, unbroken_append]
    exact ⟨⟨⟨hopened, hblank⟩, hname⟩, hbrace⟩
  · exact hbody line hline
  · decide
  · obtain ⟨r, hr, rfl⟩ := List.mem_map.mp hline
    have hfrom : Unbroken r.source := hsource r hr ▸ hname
    simp only [Edge.line, Edge.clause, unbroken_append]
    exact ⟨⟨⟨⟨hopened, hblank⟩, hfrom⟩, hblank⟩, ⟨r.kind.unbroken_word, hblank⟩, htarget r hr⟩

/-- No line of a legible block breaks. -/
theorem Legible.unbroken_lines {b : Block} (h : b.Legible) : ∀ line ∈ b.lines, Unbroken line :=
  Block.unbroken_lines h.keyword_mem h.name_unbroken h.body_unbroken h.source_eq h.target_unbroken

end Block

namespace Diagram

/-- The lines of a diagram break only where the theme or a line of a block does. -/
theorem unbroken_lines {d : Diagram} (htheme : Unbroken d.theme)
    (hblocks : ∀ b ∈ d.blocks, ∀ line ∈ b.lines, Unbroken line) :
    ∀ line ∈ d.lines, Unbroken line := by
  intro line hline
  simp only [lines, opening, List.mem_append, List.mem_cons, List.not_mem_nil, or_false,
    List.mem_flatMap] at hline
  rcases hline with ((rfl | rfl | rfl) | ⟨b, hb, hline⟩) | rfl
  · decide
  · exact unbroken_append.mpr ⟨by decide, htheme⟩
  · decide
  · exact hblocks b hb line hline
  · decide

theorem Legible.unbroken_lines {d : Diagram} (h : d.Legible) : ∀ line ∈ d.lines, Unbroken line :=
  Diagram.unbroken_lines h.theme_unbroken fun b hb => (h.blocks b hb).unbroken_lines

/-- A legible diagram is read back from its text. -/
theorem read?_text {d : Diagram} (h : d.Legible) : read? d.text = some d := by
  have hlines : Text.lines d.text = "@startuml" :: ("!theme " ++ d.theme) :: "" ::
      (d.blocks.flatMap Block.lines ++ [ending]) := by
    rw [text, Text.lines_unlines h.unbroken_lines]
    rfl
  have htheme : Text.after? "!theme " ("!theme " ++ d.theme) = some d.theme :=
    Text.after?_eq_some_iff.mpr rfl
  have hending : [ending].isSuffixOf? (d.blocks.flatMap Block.lines ++ [ending]) =
      some (d.blocks.flatMap Block.lines) :=
    List.isSuffixOf?_eq_some_iff_append_eq.mpr rfl
  simp only [read?, hlines, htheme, hending, Block.readAll_lines h.blocks, bind, Option.bind_some,
    pure]

end Diagram

/-! ### Drawing legible strings -/

/-- The strings that the line of a member shows. -/
def Member.words : Member → List String
  | .field f => [f.type, f.name]
  | .method m => m.returns.toList ++ m.name :: m.parameters.flatMap fun p => [p.type, p.name]
  | .property p => [p.type, p.name]

/-- The strings that the block of an entry shows.  The targets of its edges are names of entries. -/
def Entry.words (filter : Filter) (e : Entry) : List String :=
  e.name ::
    match e.shape with
    | .enumBlock => e.decl.enumMembers
    | .classBlock | .interfaceBlock =>
      (e.decl.members.filter (Member.shown filter)).flatMap Member.words

/-- No string of a diagram breaks a line, no type name ends with an opening brace, and no member of
an enumeration is a closing one. -/
structure Legible (theme : String) (selection : Selection) : Prop where
  theme_unbroken : Unbroken theme
  words_unbroken : ∀ e ∈ selection.entries, ∀ w ∈ e.words selection.filter, Unbroken w
  name_end : ∀ e ∈ selection.entries, e.name.toList.getLast? ≠ some '{'
  enumMember_ne : ∀ e ∈ selection.entries, e.shape = .enumBlock →
    ∀ member ∈ e.decl.enumMembers, member ≠ "\x7d"

instance (theme : String) (selection : Selection) : Decidable (Legible theme selection) :=
  decidable_of_iff
    (Unbroken theme ∧
      (∀ e ∈ selection.entries, ∀ w ∈ e.words selection.filter, Unbroken w) ∧
      (∀ e ∈ selection.entries, e.name.toList.getLast? ≠ some '{') ∧
      ∀ e ∈ selection.entries, e.shape = .enumBlock →
        ∀ member ∈ e.decl.enumMembers, member ≠ "\x7d")
    ⟨fun ⟨h₁, h₂, h₃, h₄⟩ => ⟨h₁, h₂, h₃, h₄⟩, fun ⟨h₁, h₂, h₃, h₄⟩ => ⟨h₁, h₂, h₃, h₄⟩⟩

theorem Visibility.unbroken_glyph (v : Visibility) : Unbroken v.glyph := by
  cases v <;> decide

namespace Member

variable {filter : Filter} {m : Member} {line : String}

/-- Only a shown member has a line: what stands before its marks, and these. -/
theorem line?_eq_some (h : m.line? filter = some line) :
    m.shown filter = true ∧ line = m.plain ++ String.join (m.marks filter) := by
  rw [← text_markedLine?, markedLine?, Option.map_eq_some_iff] at h
  obtain ⟨marked, hmarked, rfl⟩ := h
  split at hmarked
  case isFalse => cases hmarked
  case isTrue hshown => cases hmarked; exact ⟨hshown, rfl⟩

theorem unbroken_marks (filter : Filter) (m : Member) :
    Unbroken (String.join (m.marks filter)) := by
  have hmarks : m.marks filter ∈ [[], [writeMark], [readMark], [writeMark, readMark]] := by
    cases m with
    | field f => exact List.mem_cons_self
    | method m => exact List.mem_cons_self
    | property p =>
        cases hsetter : filter.allowsAccessor p.setter <;>
          cases hgetter : filter.allowsAccessor p.getter <;> simp [marks, hsetter, hgetter]
  have hunbroken : ∀ marks ∈ [[], [writeMark], [readMark], [writeMark, readMark]],
      Unbroken (String.join marks) := by decide
  exact hunbroken _ hmarks

/-- What stands before the marks breaks only where one of the strings does. -/
theorem unbroken_plain (h : ∀ w ∈ m.words, Unbroken w) : Unbroken m.plain := by
  have hblank : Unbroken " " := by decide
  cases m with
  | field f =>
      simp only [plain, Field.line, unbroken_append]
      exact ⟨⟨⟨f.visibility.unbroken_glyph, h f.type (by simp [words])⟩, hblank⟩,
        h f.name (by simp [words])⟩
  | property p =>
      simp only [plain, unbroken_append]
      exact ⟨⟨⟨p.visibility.unbroken_glyph, h p.type (by simp [words])⟩, hblank⟩,
        h p.name (by simp [words])⟩
  | method m =>
      have hreturns : Unbroken (m.returns.getD "void") := by
        cases hreturns : m.returns with
        | none => decide
        | some t => exact h t (by simp [words, hreturns])
      have hparameters : Unbroken (", ".intercalate (m.parameters.map Parameter.text)) := by
        refine Text.unbroken_intercalate (by decide) fun s hs => ?_
        obtain ⟨p, hp, rfl⟩ := List.mem_map.mp hs
        have hwords : ∀ w ∈ [p.type, p.name], Unbroken w := fun w hw => by
          have hmem : w ∈ m.parameters.flatMap fun p => [p.type, p.name] :=
            List.mem_flatMap.mpr ⟨p, hp, hw⟩
          exact h w (List.mem_append_right _ (List.mem_cons_of_mem m.name hmem))
        simp only [Parameter.text, unbroken_append]
        exact ⟨⟨hwords p.type (by simp), hblank⟩, hwords p.name (by simp)⟩
      simp only [plain, Method.line, unbroken_append]
      exact ⟨⟨⟨⟨⟨⟨m.visibility.unbroken_glyph, hreturns⟩, hblank⟩, h m.name (by simp [words])⟩,
        by decide⟩, hparameters⟩, by decide⟩

/-- The line of a member has a blank. -/
theorem blank_mem_plain (m : Member) : ' ' ∈ m.plain.toList := by
  cases m with
  | field f => simp [plain, Field.line]
  | method m => simp [plain, Method.line]
  | property p => simp [plain]

/-- The line of a member breaks only where one of its strings does, and is not the closing brace. -/
theorem legible_line (h : m.line? filter = some line) (hwords : ∀ w ∈ m.words, Unbroken w) :
    Unbroken line ∧ line ≠ Block.footer := by
  obtain ⟨-, rfl⟩ := line?_eq_some h
  refine ⟨unbroken_append.mpr ⟨unbroken_plain hwords, unbroken_marks filter m⟩, fun heq => ?_⟩
  have hblank : ' ' ∈ Block.footer.toList := by
    rw [← heq, String.toList_append]
    exact List.mem_append_left _ m.blank_mem_plain
  revert hblank
  decide

theorem legible_lines {members : List Member}
    (h : ∀ w ∈ (members.filter (shown filter)).flatMap words, Unbroken w) :
    ∀ line ∈ members.filterMap (line? filter), Unbroken line ∧ line ≠ Block.footer := by
  intro line hline
  obtain ⟨m, hm, hsome⟩ := List.mem_filterMap.mp hline
  have hshown := List.mem_filter.mpr ⟨hm, (line?_eq_some hsome).1⟩
  exact legible_line hsome fun w hw => h w (List.mem_flatMap.mpr ⟨m, hshown, hw⟩)

end Member

section drawing
variable {κ : Type} [Catalog κ] {catalog : κ} {filter : Filter} {theme : String}

theorem Entry.keyword_mem (e : Entry) : e.keyword ∈ Block.keywords := by
  unfold keyword
  cases e.shape <;> cases e.decl.isAbstract <;> decide

/-- The lines of a body break only where one of its strings does.  The closing brace is not among
them, unless it is a member of an enumeration. -/
theorem Entry.legible_body {e : Entry} (hwords : ∀ w ∈ e.words filter, Unbroken w) :
    ∀ line ∈ e.body filter, Unbroken line ∧ (e.shape ≠ .enumBlock → line ≠ Block.footer) := by
  unfold Entry.words at hwords
  unfold Entry.body
  rw [List.forall_mem_cons] at hwords
  intro line hline
  cases hshape : e.shape with
  | enumBlock =>
      rw [hshape] at hwords hline
      exact ⟨hwords.2 line hline, fun hne => absurd rfl hne⟩
  | classBlock =>
      rw [hshape] at hwords hline
      have hlegible := Member.legible_lines hwords.2 line hline
      exact ⟨hlegible.1, fun _ => hlegible.2⟩
  | interfaceBlock =>
      rw [hshape] at hwords hline
      have hlegible := Member.legible_lines hwords.2 line hline
      exact ⟨hlegible.1, fun _ => hlegible.2⟩

/-- The lines of a body are unbroken, and none is the closing brace. -/
theorem Legible.body {selection : Selection} (h : Legible theme selection) {e : Entry}
    (he : e ∈ selection.entries) :
    ∀ line ∈ e.body selection.filter, Unbroken line ∧ line ≠ Block.footer := by
  intro line hline
  obtain ⟨hunbroken, hopen⟩ := Entry.legible_body (h.words_unbroken e he) line hline
  refine ⟨hunbroken, ?_⟩
  by_cases hshape : e.shape = .enumBlock
  · have hmember : line ∈ e.decl.enumMembers := by
      unfold Entry.body at hline
      rw [hshape] at hline
      exact hline
    exact h.enumMember_ne e he hshape line hmember
  · exact hopen hshape

/-- The target of an edge is the name of an entry. -/
theorem Entry.exists_target {e : Entry} {r : Edge}
    (hr : r ∈ e.edges catalog (Selection.of catalog filter)) :
    ∃ e' ∈ (Selection.of catalog filter).entries, e'.name = r.target :=
  Selection.contains_iff.mp (Entry.mem_edges.mp hr).2.2.2.1

/-- Strings without line breaks are drawn as lines without line breaks. -/
theorem unbroken_draw (htheme : Unbroken theme)
    (hwords : ∀ e ∈ (Selection.of catalog filter).entries, ∀ w ∈ e.words filter, Unbroken w) :
    ∀ line ∈ (draw theme catalog filter).lines, Unbroken line := by
  have hname : ∀ e ∈ (Selection.of catalog filter).entries, Unbroken e.name := fun e he =>
    hwords e he e.name List.mem_cons_self
  refine Diagram.unbroken_lines htheme fun b hb => ?_
  obtain ⟨e, he, rfl⟩ := List.mem_map.mp hb
  apply Block.unbroken_lines
  · exact e.keyword_mem
  · exact hname e he
  · intro line hline
    exact (Entry.legible_body (hwords e he) line hline).1
  · intro r hr
    exact (Entry.mem_edges.mp hr).2.1
  · intro r hr
    obtain ⟨e', he', htarget⟩ := Entry.exists_target hr
    exact htarget ▸ hname e' he'

/-- Legible strings are drawn as a legible diagram. -/
theorem Legible.draw (h : Legible theme (Selection.of catalog filter)) :
    (draw theme catalog filter).Legible := by
  refine ⟨h.theme_unbroken, fun b hb => ?_⟩
  obtain ⟨e, he, rfl⟩ := List.mem_map.mp hb
  have hname : ∀ e' ∈ (Selection.of catalog filter).entries, Unbroken e'.name := fun e' he' =>
    h.words_unbroken e' he' e'.name List.mem_cons_self
  exact {
    keyword_mem := e.keyword_mem
    name_unbroken := hname e he
    body_unbroken := fun line hline => (h.body he line hline).1
    body_open := fun hfooter => (h.body he _ hfooter).2 rfl
    source_eq := fun r hr => (Entry.mem_edges.mp hr).2.1
    target_unbroken := fun r hr => by
      obtain ⟨e', he', htarget⟩ := Entry.exists_target hr
      exact htarget ▸ hname e' he'
    target_end := fun r hr => by
      obtain ⟨e', he', htarget⟩ := Entry.exists_target hr
      exact htarget ▸ h.name_end e' he' }

end drawing

/-- **A text has one reading**: legible diagrams with the same text have the same theme and the same
blocks, with their keywords, names, lines and edges. -/
theorem blocks_of_render {κ κ' : Type} [Catalog κ] [Catalog κ'] {theme theme' : String}
    {catalog : κ} {catalog' : κ'} {filter filter' : Filter}
    (hlegible : Legible theme (Selection.of catalog filter))
    (hlegible' : Legible theme' (Selection.of catalog' filter'))
    (htext : render theme catalog filter = render theme' catalog' filter') :
    theme = theme' ∧
      (draw theme catalog filter).blocks = (draw theme' catalog' filter').blocks := by
  have hread : some (draw theme catalog filter) = some (draw theme' catalog' filter') := by
    calc some (draw theme catalog filter)
        _ = Diagram.read? (render theme catalog filter) := (Diagram.read?_text hlegible.draw).symm
        _ = Diagram.read? (render theme' catalog' filter') := by rw [htext]
        _ = some (draw theme' catalog' filter') := Diagram.read?_text hlegible'.draw
  have hdraw := Option.some.inj hread
  exact ⟨congrArg Diagram.theme hdraw, congrArg Diagram.blocks hdraw⟩

/-- A class, a class whose name looks like an edge of the first one, and an enumeration whose
members look like other lines. -/
def lookalikes : List TypeDecl :=
  [{ name := "A", base := some "A extends B", interfaces := ["B"] },
    { name := "A extends B", members := [.field { name := "class A \x7b", type := "int" }] },
    { name := "B", kind := .enumType, enumMembers := ["class A \x7b", "@enduml", ""] }]

theorem blocks_of_render_lookalikes :
    Legible "plain" (Selection.of lookalikes .publicOnly) ∧
      Legible "plain" (Selection.of (lookalikes ++ lookalikes) .publicOrInternal) ∧
      render "plain" lookalikes .publicOnly =
        render "plain" (lookalikes ++ lookalikes) .publicOrInternal ∧
      (draw "plain" lookalikes .publicOnly).blocks =
        (draw "plain" (lookalikes ++ lookalikes) .publicOrInternal).blocks := by
  have hlegible : Legible "plain" (Selection.of lookalikes .publicOnly) := by decide
  have hlegible' : Legible "plain" (Selection.of (lookalikes ++ lookalikes) .publicOrInternal) := by
    decide
  have htext : render "plain" lookalikes .publicOnly =
      render "plain" (lookalikes ++ lookalikes) .publicOrInternal := by decide +kernel
  exact ⟨hlegible, hlegible', htext, (blocks_of_render hlegible hlegible' htext).2⟩

end ClassDiagram
