import ClassDiagram.Json.Printer
import ClassDiagram.Proofs.Json.Spelling
import Mathlib.Tactic.SplitIfs

/-! # What is written is a spelling

`Written lay v` says that the layout `lay` writes a spelling of `v`, at whatever level `v` stands.
Strings and truth values are always written so (`written_string`, `written_bool`), and lists and
objects are if their parts are (`written_array`, `written_object`), provided that the layout breaks
lines with blanks only (`Layout.Blanks`). -/

namespace ClassDiagram.Json

open Text (bytes)

/-! ### Strings -/

theorem bytes_ofList (cs : List Char) :
    bytes (String.ofList cs) = cs.flatMap String.utf8EncodeChar := by
  simp only [bytes, String.toList_ofList]

theorem utf8EncodeChar_digitChar_decimal :
    ∀ n < 10, String.utf8EncodeChar (Nat.digitChar n) = [UInt8.ofNat (n + 0x30)] := by
  decide

theorem utf8EncodeChar_digitChar_letter :
    ∀ n < 6, String.utf8EncodeChar (Nat.digitChar (n + 10)) = [UInt8.ofNat (n + 0x61)] := by
  decide

/-- The printed digits are hexadecimal digits, their letters in lower case. -/
theorem exists_hexDigit {n : Nat} (h : n < 16) :
    ∃ d, String.utf8EncodeChar (Nat.digitChar n) = [d] ∧ HexDigit d n := by
  rcases Nat.lt_or_ge n 10 with hn | hn
  · exact ⟨_, utf8EncodeChar_digitChar_decimal n hn, .decimal hn⟩
  · obtain ⟨m, rfl⟩ : ∃ m, n = m + 10 := ⟨n - 10, by omega⟩
    exact ⟨_, utf8EncodeChar_digitChar_letter m (by omega), .lower (by omega)⟩

theorem spellsChar_controlEscape {c : Char} (h : c.toNat < 0x20) :
    SpellsChar c (bytes (controlEscape c)) := by
  obtain ⟨y, hy, hdy⟩ := exists_hexDigit (show c.toNat / 16 < 16 by omega)
  obtain ⟨z, hz, hdz⟩ := exists_hexDigit (show c.toNat % 16 < 16 by omega)
  have hzero : HexDigit 0x30 0 := .decimal (by decide)
  have hnum : HexNumber [0x30, 0x30, y, z] c.toNat := by
    have := HexNumber.mk hzero hzero hdy hdz
    rwa [show ((0 * 16 + 0) * 16 + c.toNat / 16) * 16 + c.toNat % 16 = c.toNat by omega] at this
  have htext : bytes (controlEscape c) = 0x5C :: 0x75 :: [0x30, 0x30, y, z] := by
    rw [controlEscape, Text.bytes_append, bytes_ofList [_, _], List.flatMap_cons,
      List.flatMap_singleton, hy, hz]
    rfl
  rw [htext]
  exact .escape (.unit hnum)

theorem spellsChar_short {c : Char} {text : String} (letter : UInt8)
    (h : (letter, c) ∈ shortEscapes) (htext : bytes text = [0x5C, letter]) :
    SpellsChar c (bytes text) := by
  rw [htext]
  exact .escape (.short h)

/-- The spelling that the printer chooses for a character. -/
theorem spellsChar_escapedChar (c : Char) : SpellsChar c (bytes (escapedChar c)) := by
  unfold escapedChar
  split_ifs with h₁ h₂ h₃ h₄ h₅ h₆ h₇ h₈
  · exact h₁ ▸ spellsChar_short 0x22 (by decide) rfl
  · exact h₂ ▸ spellsChar_short 0x5C (by decide) rfl
  · exact h₃ ▸ spellsChar_short 0x62 (by decide) rfl
  · exact h₄ ▸ spellsChar_short 0x66 (by decide) rfl
  · exact h₅ ▸ spellsChar_short 0x6E (by decide) rfl
  · exact h₆ ▸ spellsChar_short 0x72 (by decide) rfl
  · exact h₇ ▸ spellsChar_short 0x74 (by decide) rfl
  · exact spellsChar_controlEscape h₈
  · have htext : bytes (String.singleton c) = String.utf8EncodeChar c := by simp [bytes]
    rw [htext]
    exact .plain (by omega) h₁ h₂

theorem spellsChars_escapedChars (cs : List Char) : SpellsChars cs (bytes (escapedChars cs)) := by
  induction cs with
  | nil => exact .nil
  | cons c cs ih =>
      rw [escapedChars, Text.bytes_append]
      exact .cons (spellsChar_escapedChar c) ih

theorem bytes_stringText (s : String) :
    bytes (stringText s) = quotation (bytes (escapedChars s.toList)) := by
  rw [stringText, Text.bytes_append, Text.bytes_append]
  rfl

/-! ### Layouts -/

/-- Lines are broken, and values are set off, by blanks only. -/
structure Layout.Blanks (lay : Layout) : Prop where
  lineBreak : ∀ level, Blank (bytes (lay.lineBreak level))
  gap : Blank (bytes lay.gap)

theorem Layout.blanks_compact : Layout.compact.Blanks where
  lineBreak _ := .nil
  gap := .nil

theorem Layout.blanks_pretty : Layout.pretty.Blanks where
  lineBreak level := by
    intro b hb
    rw [Layout.pretty, Text.bytes_append, bytes_ofList (List.replicate _ _), List.mem_append] at hb
    rcases hb with hb | hb
    · exact .inr (.inr (.inl (List.mem_singleton.mp hb)))
    · obtain ⟨c, hc, hb⟩ := List.mem_flatMap.mp hb
      rw [List.eq_of_mem_replicate hc] at hb
      exact .inl (List.mem_singleton.mp hb)
  gap := fun b hb => .inl (List.mem_singleton.mp hb)

/-! ### Values -/

/-- At every level the layout writes a spelling of the value. -/
def Written (lay : Layout) (v : Json) : Prop := ∀ level, Spells v (bytes (writeAt lay level v))

variable {lay : Layout}

theorem written_string (lay : Layout) (s : String) : Written lay (.string s) := by
  intro level
  rw [writeAt, bytes_stringText]
  exact .string (spellsChars_escapedChars s.toList)

theorem written_bool (lay : Layout) (b : Bool) : Written lay (.bool b) := by
  intro level
  cases b with
  | true => rw [writeAt]; exact .bool true
  | false => rw [writeAt]; exact .bool false

/-- The items after the first one, up to the closing bracket. -/
theorem spellsItems_writeItems (hlay : lay.Blanks) (level outer : Nat) {vs : List Json}
    (hvs : ∀ v ∈ vs, Written lay v) :
    SpellsItems false vs
      (bytes (writeItems lay level vs) ++ (bytes (lay.lineBreak outer) ++ [0x5D])) := by
  induction vs with
  | nil =>
      rw [writeItems]
      exact .close (hlay.lineBreak outer)
  | cons v vs ih =>
      have hsep : Separator false (bytes "," ++ bytes (lay.lineBreak level)) :=
        .comma Blank.nil (hlay.lineBreak level)
      have hrest := ih fun w hw => hvs w (List.mem_cons_of_mem v hw)
      have hitem := SpellsItems.item hsep (hvs v List.mem_cons_self level) hrest
      rw [writeItems]
      simp only [Text.bytes_append, List.append_assoc] at hitem ⊢
      exact hitem

theorem written_array (hlay : lay.Blanks) {vs : List Json} (hvs : ∀ v ∈ vs, Written lay v) :
    Written lay (.array vs) := by
  intro level
  cases vs with
  | nil =>
      rw [writeAt]
      exact .array (.close .nil)
  | cons v vs =>
      have hrest := spellsItems_writeItems hlay (level + 1) level
        fun w hw => hvs w (List.mem_cons_of_mem v hw)
      have hitem := SpellsItems.item (.first (hlay.lineBreak (level + 1)))
        (hvs v List.mem_cons_self (level + 1)) hrest
      rw [writeAt]
      simp only [Text.bytes_append, List.append_assoc]
      exact .array hitem

/-- The entries after the first one, up to the closing brace. -/
theorem spellsEntries_writeEntries (hlay : lay.Blanks) (level outer : Nat)
    {entries : List (String × Json)} (hes : ∀ e ∈ entries, Written lay e.2) :
    SpellsEntries false entries
      (bytes (writeEntries lay level entries) ++ (bytes (lay.lineBreak outer) ++ [0x7D])) := by
  induction entries with
  | nil =>
      rw [writeEntries]
      exact .close (hlay.lineBreak outer)
  | cons e entries ih =>
      obtain ⟨key, v⟩ := e
      have hsep : Separator false (bytes "," ++ bytes (lay.lineBreak level)) :=
        .comma Blank.nil (hlay.lineBreak level)
      have hrest := ih fun e he => hes e (List.mem_cons_of_mem _ he)
      have hentry := SpellsEntries.entry hsep (spellsChars_escapedChars key.toList)
        Blank.nil hlay.gap (hes (key, v) List.mem_cons_self level) hrest
      rw [writeEntries]
      simp only [Text.bytes_append, List.append_assoc, bytes_stringText] at hentry ⊢
      exact hentry

theorem written_object (hlay : lay.Blanks) {entries : List (String × Json)}
    (hes : ∀ e ∈ entries, Written lay e.2) : Written lay (.object entries) := by
  intro level
  cases entries with
  | nil =>
      rw [writeAt]
      exact .object (.close .nil)
  | cons e entries =>
      obtain ⟨key, v⟩ := e
      have hrest := spellsEntries_writeEntries hlay (level + 1) level
        fun e he => hes e (List.mem_cons_of_mem _ he)
      have hentry := SpellsEntries.entry (.first (hlay.lineBreak (level + 1)))
        (spellsChars_escapedChars key.toList) Blank.nil hlay.gap
        (hes (key, v) List.mem_cons_self (level + 1)) hrest
      rw [writeAt]
      simp only [Text.bytes_append, List.append_assoc, bytes_stringText]
      exact .object hentry

end ClassDiagram.Json
