import ClassDiagram.Embed.RawLiteral
import Mathlib.Data.List.Basic
import Mathlib.Data.List.TakeWhile
import Mathlib.Order.MinMax

/-! # Reading raw literals

A raw literal is read without knowing its content: its fence is counted, and the content ends at the
first quote that a fence of the same size follows.  `read_withFence` says that a literal whose fence
is large enough is read back, whatever stands behind it.

A run of hashes inside the content is too short to close the literal because of what `longestRun`
counts (`not_closing`), and no closing fence can begin inside the content and end behind it, since
the content is followed by a quote.

A fence that is not large enough stands behind a quote of the content (`infix_of_le_longestRun`),
and there the literal ends at the latest.  So the fence that is written is the shortest one with
which the content is read back (`fence_shortest`). -/

namespace ClassDiagram.RawLiteral

/-! ### The reader -/

/-- What is left behind the closing fence, if the character and the text after it close one. -/
def closing? (n : Nat) (c : Char) (rest : List Char) : Option (List Char) :=
  if c = '"' then (List.replicate n '#').isPrefixOf? rest else none

/-- The content up to the first quote that `n` hashes follow, and what is left behind these. -/
def readBody (n : Nat) : List Char → Option (List Char × List Char)
  | [] => none
  | c :: rest =>
    match closing? n c rest with
    | some left => some ([], left)
    | none => (readBody n rest).map fun (body, left) => (c :: body, left)

/-- The content of a literal at the start of a text, and what is left of the text. -/
def read : List Char → Option (List Char × List Char)
  | 'r' :: rest =>
    match rest.dropWhile (· == '#') with
    | '"' :: body => readBody (rest.takeWhile (· == '#')).length body
    | _ => none
  | _ => none

/-! ### Closing fences -/

theorem closing?_quote (n : Nat) (rest : List Char) :
    closing? n '"' (List.replicate n '#' ++ rest) = some rest := by
  rw [closing?, if_pos rfl, List.isPrefixOf?_eq_some_iff_append_eq]

/-- After a quote and `k` hashes, there are too few further ones before the end of the content. -/
theorem not_closing {n k : Nat} {content : List Char} (hk : k < n)
    (h : longestRun (some k) content < n) (left rest : List Char) :
    List.replicate (n - k) '#' ++ left ≠ content ++ '"' :: rest := by
  obtain ⟨m, hm⟩ : ∃ m, n - k = m + 1 := ⟨n - k - 1, by omega⟩
  rw [hm, List.replicate_succ, List.cons_append]
  induction content generalizing k m with
  | nil => simp
  | cons c content ih =>
      rw [List.cons_append, ne_eq, List.cons.injEq, not_and]
      rintro rfl
      have hnext : nextRun (some k) '#' = some (k + 1) := rfl
      rw [longestRun, hnext, Option.getD_some, Nat.max_lt] at h
      obtain ⟨m', rfl⟩ : ∃ m', m = m' + 1 := ⟨m - 1, by omega⟩
      rw [List.replicate_succ, List.cons_append]
      exact ih h.1 h.2 m' (by omega)

/-- A quote in the content does not close a literal whose fence is longer than all runs. -/
theorem closing?_eq_none {n : Nat} {run : Option Nat} {c : Char} {content : List Char}
    (h : longestRun run (c :: content) < n) (rest : List Char) :
    closing? n c (content ++ '"' :: rest) = none := by
  unfold closing?
  split
  case isFalse => rfl
  case isTrue hc =>
      rw [longestRun, hc, nextRun, if_pos rfl, Option.getD_some, Nat.max_lt] at h
      refine Option.eq_none_iff_forall_ne_some.mpr fun left hleft => ?_
      exact not_closing h.1 h.2 left rest (List.isPrefixOf?_eq_some_iff_append_eq.mp hleft)

/-! ### Reading back -/

theorem readBody_append {n : Nat} {run : Option Nat} {content : List Char}
    (h : longestRun run content < n) (rest : List Char) :
    readBody n (content ++ '"' :: (List.replicate n '#' ++ rest)) = some (content, rest) := by
  induction content generalizing run with
  | nil => rw [List.nil_append, readBody, closing?_quote]
  | cons c content ih =>
      rw [List.cons_append, readBody, closing?_eq_none h]
      rw [longestRun, Nat.max_lt] at h
      rw [ih h.2]
      rfl

theorem isHash_of_mem_replicate {n : Nat} : ∀ c ∈ List.replicate n '#', (c == '#') = true := by
  intro c hc
  rw [List.eq_of_mem_replicate hc]
  rfl

theorem takeWhile_fence (n : Nat) (body : List Char) :
    (List.replicate n '#' ++ '"' :: body).takeWhile (· == '#') = List.replicate n '#' := by
  rw [List.takeWhile_append_of_pos isHash_of_mem_replicate, List.takeWhile_cons_of_neg (by decide),
    List.append_nil]

/-- The fence is counted up to the quote. -/
theorem read_fence (n : Nat) (body : List Char) :
    read ('r' :: (List.replicate n '#' ++ '"' :: body)) = readBody n body := by
  have hdrop : (List.replicate n '#' ++ '"' :: body).dropWhile (· == '#') = '"' :: body := by
    rw [List.dropWhile_append_of_pos isHash_of_mem_replicate,
      List.dropWhile_cons_of_neg (by decide)]
  rw [read, hdrop, takeWhile_fence, List.length_replicate]
  rfl

theorem toList_withFence (n : Nat) (content : String) :
    (withFence n content).toList =
      'r' :: (List.replicate n '#' ++ '"' :: (content.toList ++ '"' :: List.replicate n '#')) := by
  simp [withFence, hashes]

/-- A literal with a large enough fence is read back, whatever follows. -/
theorem read_withFence {n : Nat} {content : String} (h : fenceSize content ≤ n)
    (rest : List Char) :
    read ((withFence n content).toList ++ rest) = some (content.toList, rest) := by
  have hrun : longestRun none content.toList < n := h
  have hbody := readBody_append hrun rest
  rw [toList_withFence, List.cons_append, List.append_assoc, List.cons_append, List.append_assoc,
    List.cons_append, read_fence, hbody]

theorem read_withFence_self {n : Nat} {content : String} (h : fenceSize content ≤ n) :
    read (withFence n content).toList = some (content.toList, []) := by
  have hread := read_withFence h []
  rwa [List.append_nil] at hread

theorem read_write (content : String) (rest : List Char) :
    read ((write content).toList ++ rest) = some (content.toList, rest) :=
  read_withFence (Nat.le_refl _) rest

/-! ### The shortest fence -/

/-- The number of hashes behind the first character of a text. -/
def openingHashes (text : List Char) : Nat := (text.tail.takeWhile (· == '#')).length

theorem openingHashes_fence (c : Char) (n : Nat) (body : List Char) :
    openingHashes (c :: (List.replicate n '#' ++ '"' :: body)) = n := by
  rw [openingHashes, List.tail_cons, takeWhile_fence, List.length_replicate]

theorem openingHashes_write (content : String) :
    openingHashes (write content).toList = fenceSize content := by
  rw [write, toList_withFence, openingHashes_fence]

/-- A quote starts a run, a hash continues one, and anything else ends it. -/
theorem nextRun_cases (run : Option Nat) (c : Char) :
    (c = '"' ∧ nextRun run c = some 0) ∨
      (∃ k, run = some k ∧ c = '#' ∧ nextRun run c = some (k + 1)) ∨ nextRun run c = none := by
  unfold nextRun
  split
  case isTrue hquote => exact .inl ⟨hquote, rfl⟩
  case isFalse =>
      split
      case isFalse => exact .inr (.inr rfl)
      case isTrue hhash =>
          cases run with
          | none => exact .inr (.inr rfl)
          | some k => exact .inr (.inl ⟨k, rfl, hhash, rfl⟩)

/-- While fewer than `n` hashes have followed the last quote, a run of `n` hashes either goes on
from there or stands behind a quote of the text that is left. -/
theorem run_continues_or_infix {n : Nat} {run : Option Nat} {content : List Char}
    (hrun : run.getD 0 < n) (h : n ≤ longestRun run content) :
    (∃ k, run = some k ∧ List.replicate (n - k) '#' <+: content) ∨
      '"' :: List.replicate n '#' <:+: content := by
  induction content generalizing run with
  | nil =>
      rw [longestRun] at h
      omega
  | cons c content ih =>
      rw [longestRun, le_max_iff] at h
      rcases nextRun_cases run c with ⟨rfl, hnext⟩ | ⟨k, rfl, rfl, hnext⟩ | hnext
      · rw [hnext, Option.getD_some, or_iff_right (by omega)] at h
        rcases ih (by rw [Option.getD_some]; omega) h with ⟨k, hk, hcontinues⟩ | hinfix
        · cases hk
          exact .inr (List.prefix_cons_inj '"' |>.mpr hcontinues).isInfix
        · exact .inr (List.infix_cons hinfix)
      · rw [Option.getD_some] at hrun
        rw [hnext, Option.getD_some] at h
        -- the hash either completes the run or leaves one hash less to come
        by_cases hlast : n = k + 1
        · refine .inl ⟨k, rfl, ?_⟩
          rw [hlast, Nat.add_sub_cancel_left]
          exact List.prefix_append ['#'] content
        · rcases ih (by rw [Option.getD_some]; omega) (h.resolve_left (by omega)) with
            ⟨k', hk', hcontinues⟩ | hinfix
          · cases hk'
            refine .inl ⟨k, rfl, ?_⟩
            rw [show n - k = n - (k + 1) + 1 by omega, List.replicate_succ, List.prefix_cons_inj]
            exact hcontinues
          · exact .inr (List.infix_cons hinfix)
      · rw [hnext, Option.getD_none, or_iff_right (by omega)] at h
        rcases ih (by rw [Option.getD_none]; omega) h with ⟨k, hk, -⟩ | hinfix
        · cases hk
        · exact .inr (List.infix_cons hinfix)

theorem infix_of_le_longestRun {n : Nat} {content : List Char} (hn : 0 < n)
    (h : n ≤ longestRun none content) : '"' :: List.replicate n '#' <:+: content := by
  have hrun : (none : Option Nat).getD 0 < n := hn
  rcases run_continues_or_infix hrun h with ⟨k, hk, -⟩ | hinfix
  · cases hk
  · exact hinfix

/-- Reading ends at a closing fence, if it has not ended before. -/
theorem readBody_of_closing (n : Nat) (front rest : List Char) :
    ∃ body left, readBody n (front ++ '"' :: (List.replicate n '#' ++ rest)) = some (body, left) ∧
      body.length ≤ front.length := by
  induction front with
  | nil =>
      refine ⟨[], rest, ?_, Nat.le_refl _⟩
      rw [List.nil_append, readBody, closing?_quote]
  | cons c front ih =>
      rw [List.cons_append, readBody]
      cases closing? n c (front ++ '"' :: (List.replicate n '#' ++ rest)) with
      | some left => exact ⟨[], left, rfl, Nat.zero_le _⟩
      | none =>
          obtain ⟨body, left, hbody, hlength⟩ := ih
          rw [hbody]
          exact ⟨c :: body, left, rfl, Nat.succ_le_succ hlength⟩

/-- A content in which the fence follows a quote is not read back. -/
theorem read_withFence_ne {n : Nat} {content : String}
    (h : '"' :: List.replicate n '#' <:+: content.toList) (left : List Char) :
    read (withFence n content).toList ≠ some (content.toList, left) := by
  obtain ⟨front, rest, hcontent⟩ := h
  rw [toList_withFence, read_fence, ← hcontent]
  simp only [List.append_assoc, List.cons_append]
  obtain ⟨body, left', hbody, hlength⟩ :=
    readBody_of_closing n front (rest ++ '"' :: List.replicate n '#')
  rw [hbody]
  intro heq
  have hbody' := congrArg List.length (Prod.mk.inj (Option.some.inj heq)).1
  simp only [List.length_append, List.length_cons] at hbody'
  omega

/-- A fence is large enough if and only if it never follows a quote of the content. -/
theorem fenceSize_le_iff {n : Nat} (hn : 0 < n) (content : String) :
    fenceSize content ≤ n ↔ ¬ '"' :: List.replicate n '#' <:+: content.toList := by
  constructor
  · intro hle hinfix
    exact read_withFence_ne hinfix [] (read_withFence_self hle)
  · intro hfree
    by_contra hlt
    exact hfree (infix_of_le_longestRun hn (by unfold fenceSize at hlt; omega))

/-- **The fence is the shortest that works**: with `n` hashes around it the content is read back,
and nothing is left, if and only if the literal that is written has no more than `n` of them. -/
theorem fence_shortest (content : String) (n : Nat) (hn : 1 ≤ n) :
    read (withFence n content).toList = some (content.toList, []) ↔
      openingHashes (write content).toList ≤ n := by
  rw [openingHashes_write]
  constructor
  · intro hread
    rw [fenceSize_le_iff hn]
    exact fun hinfix => read_withFence_ne hinfix [] hread
  · exact read_withFence_self

/-- Two quotes in a row, one of them with two hashes behind it, and a quote at the end. -/
def rope : String := "\"\"##knot### \"#\""

theorem fence_shortest_rope :
    read (withFence 2 rope).toList ≠ some (rope.toList, []) ∧
      read (withFence 3 rope).toList = some (rope.toList, []) := by
  have hsize : openingHashes (write rope).toList = 3 := by decide
  constructor
  · rw [ne_eq, fence_shortest rope 2 (by decide), hsize]
    decide
  · rw [fence_shortest rope 3 (by decide), hsize]

/-! ### Progress -/

theorem length_le_of_closing? {n : Nat} {c : Char} {rest left : List Char}
    (h : closing? n c rest = some left) : left.length ≤ rest.length := by
  unfold closing? at h
  split at h
  · rw [← List.isPrefixOf?_eq_some_iff_append_eq.mp h, List.length_append]
    omega
  · cases h

theorem length_le_of_readBody {n : Nat} {cs body left : List Char}
    (h : readBody n cs = some (body, left)) : left.length ≤ cs.length := by
  induction cs generalizing body with
  | nil => cases h
  | cons c cs ih =>
      rw [readBody] at h
      cases hclosing : closing? n c cs with
      | some left' =>
          rw [hclosing] at h
          cases h
          have := length_le_of_closing? hclosing
          rw [List.length_cons]
          omega
      | none =>
          rw [hclosing] at h
          obtain ⟨⟨body', left'⟩, hbody, heq⟩ := Option.map_eq_some_iff.mp h
          cases heq
          have := ih hbody
          rw [List.length_cons]
          omega

/-- What a literal leaves is not longer than the text. -/
theorem length_le_of_read {cs content left : List Char} (h : read cs = some (content, left)) :
    left.length ≤ cs.length := by
  unfold read at h
  split at h
  case h_2 => cases h
  case h_1 rest =>
      split at h
      case h_2 => cases h
      case h_1 body hdrop =>
          have hbody := length_le_of_readBody h
          have hle := List.length_dropWhile_le (· == '#') rest
          rw [hdrop] at hle
          simp only [List.length_cons] at hle ⊢
          omega

end ClassDiagram.RawLiteral
