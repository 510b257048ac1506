import ClassDiagram.Proofs.Embed.RawLiteral

/-! # Raw literals in source texts

A source text is not compiled as it stands: every carriage return in front of a line feed is dropped
first (`lineFeeds`).  Of what is left, a raw literal may hold no carriage return, and its fence has
at most 255 hashes.  `value?` reads a literal by these rules.

Hence a literal that is written stands for its content only if that has no carriage return and no
quote with 255 hashes behind it (`denotes_content_iff`); `value?_write` says what becomes of all
others. -/

namespace ClassDiagram.RawLiteral

/-! ### The rules of source texts -/

/-- A source text as it is compiled: a carriage return and a line feed are one line feed. -/
def lineFeeds : List Char → List Char
  | [] => []
  | c :: rest =>
    if c = '\r' ∧ rest.head? = some '\n' then lineFeeds rest else c :: lineFeeds rest

/-- The largest number of hashes in a fence. -/
def maxHashes : Nat := 255

/-- The value of a source text that is a raw literal. -/
def value? (text : String) : Option String :=
  match read (lineFeeds text.toList) with
  | some (body, []) =>
    if openingHashes (lineFeeds text.toList) ≤ maxHashes ∧ '\r' ∉ body then
      some (String.ofList body)
    else none
  | _ => none

/-! ### Line breaks -/

theorem lineFeeds_eq_self {cs : List Char} (h : '\r' ∉ cs) : lineFeeds cs = cs := by
  induction cs with
  | nil => rfl
  | cons c rest ih =>
      rw [List.mem_cons, not_or] at h
      obtain ⟨hc, hrest⟩ := h
      rw [lineFeeds, if_neg fun hbreak => hc hbreak.1.symm, ih hrest]

/-- A quote is not part of a line break. -/
theorem lineFeeds_append_quote (front rest : List Char) :
    lineFeeds (front ++ '"' :: rest) = lineFeeds front ++ '"' :: lineFeeds rest := by
  induction front with
  | nil => rfl
  | cons c front ih =>
      have hhead : (front ++ '"' :: rest).head? = some '\n' ↔ front.head? = some '\n' := by
        cases front <;> simp
      simp only [List.cons_append, lineFeeds, hhead, ih]
      split <;> rfl

/-- A line break ends a run of hashes, whatever it is made of. -/
theorem longestRun_lineFeeds (run : Option Nat) (cs : List Char) :
    longestRun run (lineFeeds cs) = longestRun run cs := by
  induction cs generalizing run with
  | nil => rfl
  | cons c rest ih =>
      rw [lineFeeds]
      split
      case isFalse => rw [longestRun, longestRun, ih]
      case isTrue hbreak =>
          obtain ⟨rfl, hhead⟩ := hbreak
          obtain ⟨rest, rfl⟩ := List.head?_eq_some_iff.mp hhead
          rw [ih]
          rfl

/-- Only the content of a literal can hold line breaks. -/
theorem lineFeeds_write (content : String) :
    lineFeeds (write content).toList =
      'r' :: (List.replicate (fenceSize content) '#' ++
        '"' :: (lineFeeds content.toList ++ '"' :: List.replicate (fenceSize content) '#')) := by
  have hlead : '\r' ∉ 'r' :: List.replicate (fenceSize content) '#' := by simp
  have hfence : '\r' ∉ List.replicate (fenceSize content) '#' := by simp
  rw [write, toList_withFence, ← List.cons_append, lineFeeds_append_quote, lineFeeds_append_quote,
    lineFeeds_eq_self hlead, lineFeeds_eq_self hfence, List.cons_append]

/-! ### What a literal stands for -/

/-- A literal stands for its content with line feeds for line breaks, unless its fence is too long
or another carriage return is left. -/
theorem value?_write (content : String) :
    value? (write content) =
      if fenceSize content ≤ maxHashes ∧ '\r' ∉ lineFeeds content.toList then
        some (String.ofList (lineFeeds content.toList))
      else none := by
  have hrun : longestRun none (lineFeeds content.toList) < fenceSize content := by
    rw [longestRun_lineFeeds]
    exact Nat.lt_succ_self _
  have hread : read (lineFeeds (write content).toList) = some (lineFeeds content.toList, []) := by
    have hbody := readBody_append hrun []
    rw [List.append_nil] at hbody
    rw [lineFeeds_write, read_fence, hbody]
  have hhashes : openingHashes (lineFeeds (write content).toList) = fenceSize content := by
    rw [lineFeeds_write, openingHashes_fence]
  rw [value?, hread, hhashes]

/-- **A literal stands for its content** if and only if there is no carriage return in it, and no
quote that is followed by as many hashes as a fence can have. -/
theorem denotes_content_iff (content : String) :
    value? (write content) = some content ↔
      '\r' ∉ content.toList ∧ ¬ '"' :: List.replicate 255 '#' <:+: content.toList := by
  rw [value?_write, ← fenceSize_le_iff (by decide) content]
  constructor
  · intro hvalue
    split at hvalue
    case isFalse => cases hvalue
    case isTrue hvalid =>
        have hself := congrArg String.toList (Option.some.inj hvalue)
        rw [String.toList_ofList] at hself
        exact ⟨hself ▸ hvalid.2, hvalid.1⟩
  · rintro ⟨hfree, hsize⟩
    rw [lineFeeds_eq_self hfree, if_pos ⟨hsize, hfree⟩, String.ofList_toList]

/-- A carriage return in front of a line feed is lost. -/
theorem not_denotes_content : ¬ ∀ content, value? (write content) = some content := by
  intro hdenotes
  have hvalue : value? (write "A\r\nB") = some "A\nB" := by decide
  exact absurd (hvalue.symm.trans (hdenotes "A\r\nB")) (by decide)

end ClassDiagram.RawLiteral
