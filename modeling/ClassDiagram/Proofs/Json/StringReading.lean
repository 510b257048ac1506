import ClassDiagram.Json.Reader.String
import ClassDiagram.Proofs.Json.Runs
import ClassDiagram.Proofs.Text.Utf8

/-! # Reading strings

Every spelling of a string is read (`runs_stringRest`) or passed over (`runs_skipString`).  The
reader collects the longest runs of plain bytes and the encodings of escaped characters; the
induction over the spelled characters therefore carries the plain bytes that the current run has
already passed. -/

namespace ClassDiagram.Json.Reader

variable {rest : List UInt8}

theorem runs_nextInString (b : UInt8) (rest : List UInt8) :
    Runs nextInString (b :: rest) b rest :=
  (runs_next b rest).bind (.pure b rest)

/-! ### Escapes -/

theorem hexDigit?_eq {b : UInt8} {n : Nat} (h : HexDigit b n) : hexDigit? b = some n := by
  cases h with
  | decimal hn =>
      simp only [hexDigit?, Text.toNat_ofNat_of_lt (show n + 0x30 < 256 by omega)]
      rw [if_pos (by omega), Nat.add_sub_cancel]
  | @upper m hm =>
      simp only [hexDigit?, Text.toNat_ofNat_of_lt (show m + 0x41 < 256 by omega)]
      rw [if_neg (by omega), if_pos (by omega)]
      congr 1
  | @lower m hm =>
      simp only [hexDigit?, Text.toNat_ofNat_of_lt (show m + 0x61 < 256 by omega)]
      rw [if_neg (by omega), if_neg (by omega), if_pos (by omega)]
      congr 1

theorem runs_hexEscape {digits : List UInt8} {n : Nat} (h : HexNumber digits n)
    (rest : List UInt8) : Runs hexEscape (digits ++ rest) n rest := by
  cases h with
  | @mk a b c d w x y z ha hb hc hd =>
      have hnum : hexNumber? a b c d = some (((w * 16 + x) * 16 + y) * 16 + z) := by
        simp only [hexNumber?, hexDigit?_eq ha, hexDigit?_eq hb, hexDigit?_eq hc, hexDigit?_eq hd]
        rfl
      refine (runs_nextInString a _).bind ?_
      refine (runs_nextInString b _).bind ?_
      refine (runs_nextInString c _).bind ?_
      refine (runs_nextInString d _).bind ?_
      rw [hnum]
      exact .pure _ rest

theorem runs_pairLetter {b : UInt8} {letter : Char} (h : Char.ofUInt8 b = letter)
    (rest : List UInt8) : Runs (pairLetter letter) (b :: rest) () rest := by
  refine (runs_nextInString b rest).bind ?_
  rw [if_pos h]
  exact .pure () rest

/-- No character has the number of a surrogate. -/
theorem not_isSurrogate (c : Char) :
    isTrailSurrogate c.toNat = false ∧ isLeadSurrogate c.toNat = false := by
  have hv : c.toNat < 0xD800 ∨ 0xDFFF < c.toNat ∧ c.toNat < 0x110000 := c.valid
  constructor
  · simp only [isTrailSurrogate, Bool.and_eq_false_iff, decide_eq_false_iff_not]
    omega
  · simp only [isLeadSurrogate, Bool.and_eq_false_iff, decide_eq_false_iff_not]
    omega

theorem leadSurrogate_bounds (c : Char) :
    0xD800 ≤ leadSurrogate c ∧ leadSurrogate c ≤ 0xDBFF := by
  have := Text.toNat_lt c
  unfold leadSurrogate
  omega

theorem trailSurrogate_bounds (c : Char) :
    0xDC00 ≤ trailSurrogate c ∧ trailSurrogate c ≤ 0xDFFF := by
  unfold trailSurrogate
  omega

/-- A character beyond the basic plane is put together again from its surrogate pair. -/
theorem pairChar_surrogates {c : Char} (h : 0x10000 ≤ c.toNat) :
    pairChar (leadSurrogate c) (trailSurrogate c) = c := by
  have hn : 0x10000 + (leadSurrogate c - 0xD800) * 0x400 + (trailSurrogate c - 0xDC00)
      = c.toNat := by
    simp only [leadSurrogate, trailSurrogate]
    omega
  rw [pairChar, hn, Char.ofNat_toNat]

theorem runs_unicodeEscape_unit {c : Char} {digits : List UInt8} (h : HexNumber digits c.toNat)
    (rest : List UInt8) : Runs unicodeEscape (digits ++ rest) c rest := by
  obtain ⟨htrail, hlead⟩ := not_isSurrogate c
  refine (runs_hexEscape h rest).bind ?_
  rw [htrail, hlead, Char.ofNat_toNat]
  exact .pure c rest

theorem runs_unicodeEscape_pair {c : Char} {lead trail : List UInt8} (h : 0x10000 ≤ c.toNat)
    (hlead : HexNumber lead (leadSurrogate c)) (htrail : HexNumber trail (trailSurrogate c))
    (rest : List UInt8) :
    Runs unicodeEscape (lead ++ 0x5C :: 0x75 :: (trail ++ rest)) c rest := by
  obtain ⟨hl₁, hl₂⟩ := leadSurrogate_bounds c
  obtain ⟨ht₁, ht₂⟩ := trailSurrogate_bounds c
  have hnot : isTrailSurrogate (leadSurrogate c) = false := by simp [isTrailSurrogate]; omega
  have hfirst : isLeadSurrogate (leadSurrogate c) = true := by simp [isLeadSurrogate, hl₁, hl₂]
  have hsecond : isTrailSurrogate (trailSurrogate c) = true := by
    simp [isTrailSurrogate, ht₁, ht₂]
  refine (runs_hexEscape hlead _).bind ?_
  rw [hnot, hfirst]
  refine (runs_pairLetter rfl _).bind ?_
  refine (runs_pairLetter rfl _).bind ?_
  refine (runs_hexEscape htrail rest).bind ?_
  rw [hsecond, pairChar_surrogates h]
  exact .pure c rest

theorem shortEscape?_eq {letter : UInt8} {c : Char} (h : (letter, c) ∈ shortEscapes) :
    Char.ofUInt8 letter ≠ 'u' ∧ shortEscape? (Char.ofUInt8 letter) = some c := by
  simp only [shortEscapes, List.mem_cons, List.not_mem_nil, or_false, Prod.mk.injEq] at h
  rcases h with ⟨rfl, rfl⟩ | ⟨rfl, rfl⟩ | ⟨rfl, rfl⟩ | ⟨rfl, rfl⟩ | ⟨rfl, rfl⟩ | ⟨rfl, rfl⟩ |
    ⟨rfl, rfl⟩ | ⟨rfl, rfl⟩ <;> exact ⟨by decide, rfl⟩

/-- What follows a backslash is read as the character that it stands for. -/
theorem runs_escape {c : Char} {esc : List UInt8} (h : Escape c esc) (rest : List UInt8) :
    Runs escape (esc ++ rest) c rest := by
  cases h with
  | @short letter _ hmem =>
      obtain ⟨hne, hshort⟩ := shortEscape?_eq hmem
      refine (runs_nextInString letter rest).bind ?_
      simp only [if_neg hne, hshort]
      exact .pure c rest
  | unit hnum =>
      refine (runs_nextInString 0x75 _).bind ?_
      exact runs_unicodeEscape_unit hnum rest
  | pair hc hlead htrail =>
      rw [List.cons_append, List.append_assoc]
      refine (runs_nextInString 0x75 _).bind ?_
      exact runs_unicodeEscape_pair hc hlead htrail rest

/-! ### Runs of plain bytes -/

theorem isPlain_of_toNat {b : UInt8} (h : 0x20 ≤ b.toNat) (hq : b.toNat ≠ 0x22)
    (hb : b.toNat ≠ 0x5C) : isPlain b = true := by
  simp only [isPlain, Bool.and_eq_true, decide_eq_true_eq, bne_iff_ne]
  refine ⟨⟨UInt8.le_iff_toNat_le.mpr h, ?_⟩, ?_⟩
  · rintro rfl
    exact hq rfl
  · rintro rfl
    exact hb rfl

/-- A character that stands for itself is encoded by plain bytes. -/
theorem isPlain_utf8EncodeChar {c : Char} (h : 0x20 ≤ c.toNat) (hq : c ≠ '"') (hb : c ≠ '\\') :
    ∀ b ∈ String.utf8EncodeChar c, isPlain b = true := by
  have hq' : c.toNat ≠ 0x22 := fun h => hq (Char.toNat_inj.mp h)
  have hb' : c.toNat ≠ 0x5C := fun h => hb (Char.toNat_inj.mp h)
  have hv : c.val.toNat = c.toNat := rfl
  have hhigh : ∀ {n : Nat}, 0x80 ≤ n → n < 256 → isPlain (UInt8.ofNat n) = true := by
    intro n h₁ h₂
    have hn := Text.toNat_ofNat_of_lt h₂
    exact isPlain_of_toNat (by omega) (by omega) (by omega)
  fun_cases String.utf8EncodeChar c with
  | case1 v hle =>
      intro b hmem
      have hn := Text.toNat_ofNat_of_lt (show v < 256 by omega)
      rw [List.mem_singleton.mp hmem]
      exact isPlain_of_toNat (by omega) (by omega) (by omega)
  | case2 v =>
      intro b hmem
      simp only [List.mem_cons, List.not_mem_nil, or_false] at hmem
      rcases hmem with rfl | rfl <;> exact hhigh (by omega) (by omega)
  | case3 v =>
      intro b hmem
      simp only [List.mem_cons, List.not_mem_nil, or_false] at hmem
      rcases hmem with rfl | rfl | rfl <;> exact hhigh (by omega) (by omega)
  | case4 v =>
      intro b hmem
      simp only [List.mem_cons, List.not_mem_nil, or_false] at hmem
      rcases hmem with rfl | rfl | rfl | rfl <;> exact hhigh (by omega) (by omega)

theorem runs_stringStep_quote {run : List UInt8} (hrun : ∀ b ∈ run, isPlain b = true)
    (done rest : List UInt8) :
    Runs (stringStep done) (run ++ 0x22 :: rest) (.done (done ++ run)) rest := by
  refine (runs_span hrun rfl).bind ?_
  exact (runs_nextInString 0x22 rest).bind (.pure _ rest)

theorem runs_stringStep_escape {run : List UInt8} (hrun : ∀ b ∈ run, isPlain b = true) {c : Char}
    {esc : List UInt8} (h : Escape c esc) (done rest : List UInt8) :
    Runs (stringStep done) (run ++ 0x5C :: (esc ++ rest))
      (.again (done ++ run ++ String.utf8EncodeChar c)) rest := by
  refine (runs_span hrun rfl).bind ?_
  refine (runs_nextInString 0x5C _).bind ?_
  exact (runs_escape h rest).bind (.pure _ rest)

/-- From the middle of a run of plain bytes on, the rest of a string is read up to its quote. -/
theorem runs_repeating_stringStep {cs : List Char} {body : List UInt8} (h : SpellsChars cs body)
    (rest : List UInt8) : ∀ done run : List UInt8, (∀ b ∈ run, isPlain b = true) →
      Runs (repeating stringStep done) (run ++ (body ++ 0x22 :: rest))
        (done ++ run ++ cs.flatMap String.utf8EncodeChar) rest := by
  induction h with
  | nil =>
      intro done run hrun
      rw [List.flatMap_nil, List.append_nil]
      exact (runs_stringStep_quote hrun done rest).done
  | @cons c cs text body hc _ ih =>
      intro done run hrun
      rw [List.flatMap_cons]
      cases hc with
      | plain hlow hq hb =>
          have hplain : ∀ b ∈ run ++ String.utf8EncodeChar c, isPlain b = true := by
            intro b hmem
            rcases List.mem_append.mp hmem with hmem | hmem
            · exact hrun b hmem
            · exact isPlain_utf8EncodeChar hlow hq hb b hmem
          have := ih done (run ++ String.utf8EncodeChar c) hplain
          simpa only [List.append_assoc] using this
      | @escape esc hesc =>
          have hstep := runs_stringStep_escape hrun hesc done (body ++ 0x22 :: rest)
          have hrep := ih (done ++ run ++ String.utf8EncodeChar c) [] (fun _ hb => nomatch hb)
          rw [List.nil_append, List.append_nil, List.append_assoc] at hrep
          simp only [List.cons_append, List.append_assoc] at hrep hstep ⊢
          refine hstep.again ?_ hrep
          simp only [List.length_append, List.length_cons]
          omega

/-- **Every spelling of a string is read.** -/
theorem runs_stringRest {s : String} {body : List UInt8} (h : SpellsChars s.toList body)
    (rest : List UInt8) : Runs stringRest (body ++ 0x22 :: rest) s rest := by
  have hbody : Runs stringBody (body ++ 0x22 :: rest) (Text.bytes s) rest :=
    runs_repeating_stringStep h rest [] [] (fun _ hb => nomatch hb)
  refine hbody.bind ?_
  rw [Text.decode_bytes]
  exact .pure s rest

/-! ### Passing over strings -/

theorem runs_skipString_quote {run : List UInt8} (hrun : ∀ b ∈ run, isPlain b = true)
    (rest : List UInt8) : Runs skipString (run ++ 0x22 :: rest) () rest := by
  refine Runs.done ?_
  refine (runs_span hrun rfl).bind ?_
  refine (runs_peek 0x22 rest).bind ?_
  exact (runs_advance 0x22 rest).bind (.pure _ rest)

/-- An escape is passed over, and then the rest of the string. -/
theorem runs_skipString_escape {run esc rest rest' : List UInt8}
    (hrun : ∀ b ∈ run, isPlain b = true) (hesc : Runs skipEscape (esc ++ rest) () rest)
    (hrest : Runs skipString rest () rest') :
    Runs skipString (run ++ 0x5C :: (esc ++ rest)) () rest' := by
  refine Runs.again ?_ ?_ hrest
  · refine (runs_span hrun rfl).bind ?_
    refine (runs_peek 0x5C _).bind ?_
    refine (runs_advance 0x5C _).bind ?_
    exact hesc.bind (.pure _ rest)
  · simp only [List.length_append, List.length_cons]
    omega

theorem runs_skipEscape_short {letter : UInt8} {c : Char} (h : (letter, c) ∈ shortEscapes)
    (rest : List UInt8) : Runs skipEscape (letter :: rest) () rest := by
  obtain ⟨hne, hshort⟩ := shortEscape?_eq h
  refine (runs_nextInString letter rest).bind ?_
  simp only [if_neg hne, hshort]
  exact .pure () rest

theorem runs_skipEscape_hex {digits : List UInt8} {n : Nat} (h : HexNumber digits n)
    (rest : List UInt8) : Runs skipEscape (0x75 :: digits ++ rest) () rest := by
  refine (runs_nextInString 0x75 _).bind ?_
  exact (runs_hexEscape h rest).bind (.pure () rest)

/-- From the middle of a run of plain bytes on, a string is passed over up to its quote. -/
theorem runs_skipString_from {cs : List Char} {body : List UInt8} (h : SpellsChars cs body)
    (rest : List UInt8) : ∀ run : List UInt8, (∀ b ∈ run, isPlain b = true) →
      Runs skipString (run ++ (body ++ 0x22 :: rest)) () rest := by
  induction h with
  | nil => exact fun run hrun => runs_skipString_quote hrun rest
  | @cons c cs text body hc _ ih =>
      intro run hrun
      have hempty : ∀ b ∈ ([] : List UInt8), isPlain b = true := fun _ hb => nomatch hb
      have hbody := ih [] hempty
      rw [List.nil_append] at hbody
      cases hc with
      | plain hlow hq hb =>
          have hplain : ∀ b ∈ run ++ String.utf8EncodeChar c, isPlain b = true := by
            intro b hmem
            rcases List.mem_append.mp hmem with hmem | hmem
            · exact hrun b hmem
            · exact isPlain_utf8EncodeChar hlow hq hb b hmem
          have := ih (run ++ String.utf8EncodeChar c) hplain
          simpa only [List.append_assoc] using this
      | escape hesc =>
          rw [List.append_assoc, List.cons_append]
          cases hesc with
          | short hmem => exact runs_skipString_escape hrun (runs_skipEscape_short hmem _) hbody
          | unit hnum => exact runs_skipString_escape hrun (runs_skipEscape_hex hnum _) hbody
          | pair _ hlead htrail =>
              -- each half of a surrogate pair is passed over on its own
              have htrail' := runs_skipString_escape hempty (runs_skipEscape_hex htrail _) hbody
              have hlead' := runs_skipString_escape hrun (runs_skipEscape_hex hlead _) htrail'
              simpa only [List.nil_append, List.cons_append, List.append_assoc] using hlead'

/-- **Every spelling of a string is passed over.** -/
theorem runs_skipString {s : String} {body : List UInt8} (h : SpellsChars s.toList body)
    (rest : List UInt8) : Runs skipString (body ++ 0x22 :: rest) () rest :=
  runs_skipString_from h rest [] fun _ hb => nomatch hb

end ClassDiagram.Json.Reader
