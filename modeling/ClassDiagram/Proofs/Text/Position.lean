import ClassDiagram.Text.Position
import Mathlib.Tactic.WLOG

/-! # Places and offsets

The position behind a byte is one step from the position in front of it (`Position.after_concat`),
so that a position that is kept up to date is the one that counting the bytes gives.  Within a line,
going back is a subtraction from the column (`Position.back_ofOffset`).  A place stands for one
offset only (`Position.ofOffset_injective`), so that it tells where in the input it belongs. -/

namespace ClassDiagram.Text.Position

theorem line_after_append (seen more : List UInt8) :
    (after (seen ++ more)).line = (after seen).line + more.count newline := by
  simp only [after, List.count_append]
  omega

theorem column_after_append (seen : List UInt8) {more : List UInt8} (hmore : newline ∉ more) :
    (after (seen ++ more)).column = (after seen).column + more.length := by
  have hall : ∀ b ∈ more.reverse, (b != newline) = true := by
    intro b hb
    exact bne_iff_ne.mpr fun h => hmore (h ▸ List.mem_reverse.mp hb)
  simp only [after, List.reverse_append, List.takeWhile_append_of_pos hall, List.length_append,
    List.length_reverse]
  omega

/-! ### Forwards -/

/-- A line break begins a line, and any other byte takes up a column. -/
theorem after_concat (seen : List UInt8) (b : UInt8) :
    after (seen ++ [b]) = (after seen).step b := by
  unfold step
  split
  · rename_i hb
    subst hb
    simp [after, Nat.add_assoc]
  · rename_i hb
    have hline := line_after_append seen [b]
    have hcolumn := column_after_append seen (show newline ∉ [b] by simpa using Ne.symm hb)
    rw [List.count_singleton, beq_false_of_ne hb] at hline
    exact congrArg₂ Position.mk hline hcolumn

theorem ofOffset_succ {input : List UInt8} {offset : Nat} {b : UInt8}
    (h : input[offset]? = some b) :
    ofOffset input (offset + 1) = (ofOffset input offset).step b := by
  rw [ofOffset, List.take_add_one, h, Option.toList_some, after_concat]
  rfl

/-! ### Backwards -/

/-- Going back over bytes without a line break is going back in the column. -/
theorem back_after {seen more : List UInt8} (hmore : newline ∉ more) :
    more.length ≤ (after (seen ++ more)).column ∧
      (after (seen ++ more)).back more.length = after seen := by
  have hline := line_after_append seen more
  have hcolumn := column_after_append seen hmore
  rw [List.count_eq_zero.mpr hmore] at hline
  refine ⟨by omega, ?_⟩
  rw [back, hline, hcolumn, Nat.add_sub_cancel, Nat.add_zero]

theorem back_ofOffset (before rest : List UInt8) {passed : List UInt8} {n : Nat}
    (hpassed : newline ∉ passed) (hn : n ≤ passed.length) :
    n ≤ (ofOffset (before ++ (passed ++ rest)) (before.length + passed.length)).column ∧
      (ofOffset (before ++ (passed ++ rest)) (before.length + passed.length)).back n =
        ofOffset (before ++ (passed ++ rest)) (before.length + passed.length - n) := by
  -- the bytes in front of the place, and those from there on
  obtain ⟨kept, more, rfl, rfl⟩ : ∃ kept more, passed = kept ++ more ∧ more.length = n :=
    ⟨passed.take (passed.length - n), passed.drop (passed.length - n),
      (List.take_append_drop _ _).symm, by rw [List.length_drop]; omega⟩
  have hmore : newline ∉ more := fun h => hpassed (List.mem_append_right kept h)
  have hbehind : (before ++ (kept ++ more ++ rest)).take (before.length + (kept ++ more).length) =
      before ++ kept ++ more := by
    rw [List.append_assoc before, ← List.append_assoc before, ← List.length_append]
    exact List.take_left
  have hback : (before ++ (kept ++ more ++ rest)).take
      (before.length + (kept ++ more).length - more.length) = before ++ kept := by
    rw [List.length_append, ← Nat.add_assoc, Nat.add_sub_cancel, List.append_assoc kept,
      ← List.append_assoc before, ← List.length_append]
    exact List.take_left
  simp only [ofOffset, hbehind, hback]
  exact back_after hmore

/-! ### One offset for a place -/

theorem eq_nil_of_after_append {seen more : List UInt8} (h : after (seen ++ more) = after seen) :
    more = [] := by
  have hcount : more.count newline = 0 := by
    have hline := congrArg Position.line h
    rw [line_after_append] at hline
    omega
  have hcolumn := congrArg Position.column h
  rw [column_after_append seen (List.count_eq_zero.mp hcount)] at hcolumn
  exact List.length_eq_zero_iff.mp (by omega)

/-- Different offsets have different places. -/
theorem ofOffset_injective {input : List UInt8} {p q : Nat} (hp : p ≤ input.length)
    (hq : q ≤ input.length) (h : ofOffset input p = ofOffset input q) : p = q := by
  wlog hpq : p ≤ q generalizing p q
  · exact (this hq hp h.symm (by omega)).symm
  have htake : input.take q = input.take p ++ (input.drop p).take (q - p) := by
    rw [← List.take_add, Nat.add_sub_cancel' hpq]
  unfold ofOffset at h
  rw [htake] at h
  have hlength := congrArg List.length (eq_nil_of_after_append h.symm)
  simp only [List.length_take, List.length_drop, List.length_nil] at hlength
  omega

end ClassDiagram.Text.Position
