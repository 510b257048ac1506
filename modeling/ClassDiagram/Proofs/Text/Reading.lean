import ClassDiagram.Text.Lines
import Mathlib.Data.List.Basic

/-! # Reading texts

Tools to read back what has been written.  A text of lines without line breaks falls apart into
these lines again (`lines_unlines`), and has as many line breaks as lines (`count_unlines`).  Within
a line, `after?` and `before?` take away a known start or end.  `readAll` repeats a reader that
makes progress up to the end of its input. -/

namespace ClassDiagram.Text

/-! ### Strings without line breaks -/

/-- The string has no line break. -/
def Unbroken (s : String) : Prop := '\n' ∉ s.toList

instance (s : String) : Decidable (Unbroken s) := inferInstanceAs (Decidable ('\n' ∉ s.toList))

theorem unbroken_append {s t : String} : Unbroken (s ++ t) ↔ Unbroken s ∧ Unbroken t := by
  simp only [Unbroken, String.toList_append, List.mem_append, not_or]

/-- What is in strings with a separator between them is in the separator or in one of them. -/
theorem mem_of_mem_intercalate {α : Type} {sep : List α} {a : α} {as : List (List α)}
    (h : a ∈ sep.intercalate as) : a ∈ sep ∨ ∃ l ∈ as, a ∈ l := by
  induction as with
  | nil => cases h
  | cons l as ih =>
      cases as with
      | nil => exact .inr ⟨l, List.mem_cons_self, by simpa using h⟩
      | cons l' as =>
          rw [List.intercalate_cons_cons, List.mem_append, List.mem_append] at h
          rcases h with (h | h) | h
          · exact .inr ⟨l, List.mem_cons_self, h⟩
          · exact .inl h
          · rcases ih h with h | ⟨l'', hl'', h⟩
            · exact .inl h
            · exact .inr ⟨l'', List.mem_cons_of_mem l hl'', h⟩

theorem unbroken_intercalate {sep : String} {strings : List String} (hsep : Unbroken sep)
    (h : ∀ s ∈ strings, Unbroken s) : Unbroken (sep.intercalate strings) := by
  unfold Unbroken
  rw [String.toList_intercalate]
  intro hmem
  rcases mem_of_mem_intercalate hmem with hmem | ⟨l, hl, hmem⟩
  · exact hsep hmem
  · obtain ⟨s, hs, rfl⟩ := List.mem_map.mp hl
    exact h s hs hmem

/-! ### Lines -/

/-- The lines of a text, each of which a line break closes. -/
def lines (text : String) : List String := ((text.toList.splitOn '\n').map String.ofList).dropLast

theorem splitOn_unlines {ls : List String} (h : ∀ l ∈ ls, Unbroken l) :
    (unlines ls).toList.splitOn '\n' = ls.map String.toList ++ [[]] := by
  induction ls with
  | nil => rfl
  | cons l ls ih =>
      have hl : ∀ c ∈ l.toList, (c == '\n') = false := fun c hc => by
        rw [beq_eq_false_iff_ne]
        exact fun hbreak => h l List.mem_cons_self (hbreak ▸ hc)
      have htext : (unlines (l :: ls)).toList = l.toList ++ '\n' :: (unlines ls).toList := by
        simp [unlines]
      have hls := ih fun l' hl' => h l' (List.mem_cons_of_mem l hl')
      rw [htext, List.splitOn, List.splitOnP_append_cons_of_forall_mem hl '\n' rfl]
      exact congrArg (l.toList :: ·) hls

/-- Unbroken lines are read back. -/
theorem lines_unlines {ls : List String} (h : ∀ l ∈ ls, Unbroken l) : lines (unlines ls) = ls := by
  have hback : (ls.map String.toList).map String.ofList = ls := by
    rw [List.map_map]
    exact (List.map_congr_left fun l _ => String.ofList_toList).trans (List.map_id' ls)
  rw [lines, splitOn_unlines h, List.map_append, hback]
  exact List.dropLast_concat

/-- Unbroken lines have one line break each. -/
theorem count_unlines {ls : List String} (h : ∀ l ∈ ls, Unbroken l) :
    (unlines ls).toList.count '\n' = ls.length := by
  induction ls with
  | nil => rfl
  | cons l ls ih =>
      have hl : l.toList.count '\n' = 0 := List.count_eq_zero.mpr (h l List.mem_cons_self)
      have hls := ih fun l' hl' => h l' (List.mem_cons_of_mem l hl')
      have htext : (unlines (l :: ls)).toList = l.toList ++ '\n' :: (unlines ls).toList := by
        simp [unlines]
      rw [htext, List.count_append, List.count_cons_self, hl, hls, List.length_cons, Nat.zero_add]

/-! ### Known parts -/

/-- What follows `lead` in characters that have to start with it. -/
def skip? (lead : String) (cs : List Char) : Option (List Char) := lead.toList.isPrefixOf? cs

/-- What follows `lead` in a text that has to start with it. -/
def after? (lead text : String) : Option String := (skip? lead text.toList).map String.ofList

/-- What precedes `close` in a text that has to end with it. -/
def before? (close text : String) : Option String :=
  (close.toList.isSuffixOf? text.toList).map String.ofList

theorem skip?_eq_some_iff {lead : String} {cs left : List Char} :
    skip? lead cs = some left ↔ lead.toList ++ left = cs :=
  List.isPrefixOf?_eq_some_iff_append_eq

theorem skip?_append (lead : String) (rest : List Char) :
    skip? lead (lead.toList ++ rest) = some rest :=
  skip?_eq_some_iff.mpr rfl

theorem after?_eq_some_iff {lead text rest : String} :
    after? lead text = some rest ↔ text = lead ++ rest := by
  simp only [after?, Option.map_eq_some_iff, skip?_eq_some_iff]
  constructor
  · rintro ⟨cs, hcs, rfl⟩
    rw [← String.toList_inj, String.toList_append, String.toList_ofList, hcs]
  · rintro rfl
    exact ⟨rest.toList, String.toList_append.symm, String.ofList_toList⟩

theorem before?_eq_some_iff {close text rest : String} :
    before? close text = some rest ↔ text = rest ++ close := by
  simp only [before?, Option.map_eq_some_iff, List.isSuffixOf?_eq_some_iff_append_eq]
  constructor
  · rintro ⟨cs, hcs, rfl⟩
    rw [← String.toList_inj, String.toList_append, String.toList_ofList, hcs]
  · rintro rfl
    exact ⟨rest.toList, String.toList_append.symm, String.ofList_toList⟩

/-- A text does not start with one that starts otherwise. -/
theorem after?_eq_none {lead text : String} (hlead : lead.toList.head?.isSome = true)
    (hne : lead.toList.head? ≠ text.toList.head?) : after? lead text = none := by
  refine Option.eq_none_iff_forall_ne_some.mpr fun rest hrest => hne ?_
  rw [after?_eq_some_iff.mp hrest, String.toList_append, List.head?_append,
    Option.or_of_isSome hlead]

/-! ### Repeated readers -/

section items
variable {α β : Type}

/-- Whatever the reader reads takes up some of its input. -/
def Progress (item : List α → Option (β × List α)) : Prop :=
  ∀ as b left, item as = some (b, left) → left.length < as.length

/-- Reads items up to the end of the input. -/
def readAll (item : List α → Option (β × List α)) (hitem : Progress item) :
    List α → Option (List β)
  | [] => some []
  | a :: as =>
    match _ : item (a :: as) with
    | none => none
    | some (b, left) => (readAll item hitem left).map (b :: ·)
termination_by as => as.length
decreasing_by exact hitem _ _ _ ‹_›

variable {item : List α → Option (β × List α)} {hitem : Progress item}

theorem readAll_nil : readAll item hitem [] = some [] := by
  rw [readAll]

theorem readAll_of_item {as left : List α} {b : β} (h : item as = some (b, left)) :
    readAll item hitem as = (readAll item hitem left).map (b :: ·) := by
  cases as with
  | nil => exact absurd (hitem _ _ _ h) (Nat.not_lt_zero _)
  | cons a as =>
      rw [readAll]
      split
      case h_1 hnone => cases hnone.symm.trans h
      case h_2 b' left' hsome =>
          cases hsome.symm.trans h
          rfl

end items

end ClassDiagram.Text
