import ClassDiagram.Text.Utf8

/-! # Encoding and strict reading agree

Every string is read back from its bytes (`decode_bytes`), and nothing else is read as a text
(`decode_eq_ok_iff`).  A character's encoding spreads its bits over a lead byte and continuation
bytes; `lead?` and `continued?` collect them again, and the bounds that reading checks hold because
a character never has more bytes than it needs.  Conversely these bounds leave no other bytes from
which a character could be read. -/

namespace ClassDiagram.Text

theorem toNat_ofNat_of_lt {n : Nat} (h : n < 256) : (UInt8.ofNat n).toNat = n := by
  rw [UInt8.toNat_ofNat', Nat.mod_eq_of_lt h]

/-! ### Lead and continuation bytes -/

/-- A continuation byte appends its six bits. -/
theorem continued?_succ {p : Nat} (hp : p < 0x40) (k n : Nat) (rest : List UInt8) :
    continued? (k + 1) n (UInt8.ofNat (p + 0x80) :: rest) = continued? k (n * 64 + p) rest := by
  rw [continued?, toNat_ofNat_of_lt (by omega), if_pos (by omega), Nat.add_sub_cancel]

theorem lead?_single {p : Nat} (hp : p < 0x80) : lead? (UInt8.ofNat p) = some ⟨0, p, 0⟩ := by
  simp only [lead?, toNat_ofNat_of_lt (show p < 256 by omega)]
  rw [if_pos hp]

theorem lead?_double {p : Nat} (hp : p < 0x20) :
    lead? (UInt8.ofNat (p + 0xC0)) = some ⟨1, p, 0x80⟩ := by
  simp only [lead?, toNat_ofNat_of_lt (show p + 0xC0 < 256 by omega)]
  rw [if_neg (by omega), if_neg (by omega), if_pos (by omega), Nat.add_sub_cancel]

theorem lead?_triple {p : Nat} (hp : p < 0x10) :
    lead? (UInt8.ofNat (p + 0xE0)) = some ⟨2, p, 0x800⟩ := by
  simp only [lead?, toNat_ofNat_of_lt (show p + 0xE0 < 256 by omega)]
  rw [if_neg (by omega), if_neg (by omega), if_neg (by omega), if_pos (by omega),
    Nat.add_sub_cancel]

theorem lead?_quadruple {p : Nat} (hp : p < 0x08) :
    lead? (UInt8.ofNat (p + 0xF0)) = some ⟨3, p, 0x10000⟩ := by
  simp only [lead?, toNat_ofNat_of_lt (show p + 0xF0 < 256 by omega)]
  rw [if_neg (by omega), if_neg (by omega), if_neg (by omega), if_neg (by omega),
    if_pos (by omega), Nat.add_sub_cancel]

/-! ### Characters -/

theorem decodeChar?_of_lead {c : Char} {a : UInt8} {lead : Lead} {tail rest : List UInt8}
    (hl : lead? a = some lead)
    (hk : continued? lead.following lead.payload tail = some (c.toNat, rest))
    (hleast : lead.least ≤ c.toNat) : decodeChar? (a :: tail) = some (c, rest) := by
  have hc : c.toNat.isValidChar := c.valid
  simp [decodeChar?, hl, hk, hleast, hc, Char.ofNat_toNat]

theorem toNat_lt (c : Char) : c.toNat < 0x110000 := by
  rcases c.valid with h | h
  · exact Nat.lt_trans h (by decide)
  · exact h.2

/-- A character is read back from its encoding, whatever follows. -/
theorem decodeChar?_utf8EncodeChar (c : Char) (rest : List UInt8) :
    decodeChar? (String.utf8EncodeChar c ++ rest) = some (c, rest) := by
  have hlt := toNat_lt c
  have hv : c.val.toNat = c.toNat := rfl
  -- one case for each length; the collected bits are the number's digits to the base 64
  fun_cases String.utf8EncodeChar c with
  | case1 v h =>
      exact decodeChar?_of_lead (lead?_single (by omega)) rfl (Nat.zero_le _)
  | case2 v h₁ h₂ =>
      rw [List.cons_append]
      refine decodeChar?_of_lead (lead?_double (by omega)) ?_ (by simp only; omega)
      simp only [List.cons_append, List.nil_append]
      rw [continued?_succ (by omega), continued?]
      congr 2
      omega
  | case3 v h₁ h₂ h₃ =>
      rw [List.cons_append]
      refine decodeChar?_of_lead (lead?_triple (by omega)) ?_ (by simp only; omega)
      simp only [List.cons_append, List.nil_append]
      rw [continued?_succ (by omega), continued?_succ (by omega), continued?]
      congr 2
      omega
  | case4 v h₁ h₂ h₃ =>
      rw [List.cons_append]
      refine decodeChar?_of_lead (lead?_quadruple (by omega)) ?_ (by simp only; omega)
      simp only [List.cons_append, List.nil_append]
      rw [continued?_succ (by omega), continued?_succ (by omega), continued?_succ (by omega),
        continued?]
      congr 2
      omega

/-! ### Texts -/

theorem decodeFrom_flatMap (good : Nat) (cs : List Char) :
    decodeFrom good (cs.flatMap String.utf8EncodeChar) = .ok cs := by
  induction cs generalizing good with
  | nil => rw [List.flatMap_nil, decodeFrom]; rfl
  | cons c cs ih =>
      have hc := decodeChar?_utf8EncodeChar c (cs.flatMap String.utf8EncodeChar)
      rw [List.flatMap_cons, decodeFrom]
      split
      · rename_i c' rest h
        obtain ⟨rfl, rfl⟩ := Prod.mk.inj (Option.some.inj (hc.symm.trans h))
        rw [ih]
        rfl
      · rename_i h
        rw [hc] at h
        cases h

/-- **Every string is read back from its bytes.** -/
theorem decode_bytes (s : String) : decode (bytes s) = .ok s := by
  rw [decode, bytes, decodeFrom_flatMap]
  exact congrArg Except.ok String.ofList_toList

/-! ### What is read -/

theorem ofNat_toNat_sub {b : UInt8} {low : Nat} (h : low ≤ b.toNat) :
    UInt8.ofNat (b.toNat - low + low) = b := by
  rw [Nat.sub_add_cancel h, UInt8.ofNat_toNat]

/-- A continuation byte that is read has six bits and its mark. -/
theorem continued?_succ_eq_some {k n m : Nat} {bs rest : List UInt8}
    (h : continued? (k + 1) n bs = some (m, rest)) :
    ∃ p < 0x40, ∃ tail, bs = UInt8.ofNat (p + 0x80) :: tail ∧
      continued? k (n * 64 + p) tail = some (m, rest) := by
  cases bs with
  | nil => cases h
  | cons b tail =>
      rw [continued?] at h
      split at h
      case isFalse => cases h
      case isTrue hb =>
          refine ⟨b.toNat - 0x80, by omega, tail, ?_, h⟩
          rw [ofNat_toNat_sub hb.1]

/-- A lead byte that is read has its bits and the mark of its length. -/
theorem lead?_eq_some {a : UInt8} {lead : Lead} (h : lead? a = some lead) :
    (∃ p < 0x80, a = UInt8.ofNat p ∧ lead = ⟨0, p, 0⟩) ∨
    (∃ p < 0x20, a = UInt8.ofNat (p + 0xC0) ∧ lead = ⟨1, p, 0x80⟩) ∨
    (∃ p < 0x10, a = UInt8.ofNat (p + 0xE0) ∧ lead = ⟨2, p, 0x800⟩) ∨
    ∃ p < 0x08, a = UInt8.ofNat (p + 0xF0) ∧ lead = ⟨3, p, 0x10000⟩ := by
  have hback : ∀ {low}, low ≤ a.toNat → a = UInt8.ofNat (a.toNat - low + low) := fun hlow =>
    (ofNat_toNat_sub hlow).symm
  simp only [lead?] at h
  split at h
  · cases h
    exact .inl ⟨a.toNat, by omega, UInt8.ofNat_toNat.symm, rfl⟩
  · split at h
    · cases h
    · split at h
      · cases h
        exact .inr (.inl ⟨a.toNat - 0xC0, by omega, hback (by omega), rfl⟩)
      · split at h
        · cases h
          exact .inr (.inr (.inl ⟨a.toNat - 0xE0, by omega, hback (by omega), rfl⟩))
        · split at h
          · cases h
            exact .inr (.inr (.inr ⟨a.toNat - 0xF0, by omega, hback (by omega), rfl⟩))
          · cases h

/-- A character is read from nothing but its own encoding. -/
theorem eq_utf8EncodeChar_append {c : Char} {bs rest : List UInt8}
    (h : decodeChar? bs = some (c, rest)) : bs = String.utf8EncodeChar c ++ rest := by
  cases bs with
  | nil => cases h
  | cons a tail =>
      simp only [decodeChar?, bind, Option.bind_eq_some_iff] at h
      obtain ⟨lead, hlead, ⟨n, after⟩, hcontinued, h⟩ := h
      split at h
      case isFalse => cases h
      case isTrue hn =>
          cases h
          have hval : (Char.ofNat n).val.toNat = n := by
            rw [Char.ofNat, dif_pos hn.2]
            rfl
          -- one case for each lead byte; the payloads are the digits of `n` to the base 64
          rcases lead?_eq_some hlead with ⟨p, hp, rfl, rfl⟩ | ⟨p, hp, rfl, rfl⟩ |
            ⟨p, hp, rfl, rfl⟩ | ⟨p, hp, rfl, rfl⟩
          · cases hcontinued
            simp only [String.utf8EncodeChar, hval]
            rw [if_pos (by omega)]
            rfl
          · obtain ⟨q, hq, left, rfl, hq'⟩ := continued?_succ_eq_some hcontinued
            cases hq'
            simp only at hn hval ⊢
            have h₁ : (p * 64 + q) / 64 % 32 = p := by omega
            have h₂ : (p * 64 + q) % 64 = q := by omega
            simp only [String.utf8EncodeChar, hval]
            rw [if_neg (by omega), if_pos (by omega), h₁, h₂]
            rfl
          · obtain ⟨q, hq, left, rfl, hq'⟩ := continued?_succ_eq_some hcontinued
            obtain ⟨r, hr, left, rfl, hr'⟩ := continued?_succ_eq_some hq'
            cases hr'
            simp only at hn hval ⊢
            have h₁ : ((p * 64 + q) * 64 + r) / 4096 % 16 = p := by omega
            have h₂ : ((p * 64 + q) * 64 + r) / 64 % 64 = q := by omega
            have h₃ : ((p * 64 + q) * 64 + r) % 64 = r := by omega
            simp only [String.utf8EncodeChar, hval]
            rw [if_neg (by omega), if_neg (by omega), if_pos (by omega), h₁, h₂, h₃]
            rfl
          · obtain ⟨q, hq, left, rfl, hq'⟩ := continued?_succ_eq_some hcontinued
            obtain ⟨r, hr, left, rfl, hr'⟩ := continued?_succ_eq_some hq'
            obtain ⟨s, hs, left, rfl, hs'⟩ := continued?_succ_eq_some hr'
            cases hs'
            simp only at hn hval ⊢
            have h₁ : (((p * 64 + q) * 64 + r) * 64 + s) / 262144 % 8 = p := by omega
            have h₂ : (((p * 64 + q) * 64 + r) * 64 + s) / 4096 % 64 = q := by omega
            have h₃ : (((p * 64 + q) * 64 + r) * 64 + s) / 64 % 64 = r := by omega
            have h₄ : (((p * 64 + q) * 64 + r) * 64 + s) % 64 = s := by omega
            simp only [String.utf8EncodeChar, hval]
            rw [if_neg (by omega), if_neg (by omega), if_neg (by omega), h₁, h₂, h₃, h₄]
            rfl

theorem eq_flatMap_of_decodeFrom {good : Nat} {bs : List UInt8} {cs : List Char}
    (h : decodeFrom good bs = .ok cs) : bs = cs.flatMap String.utf8EncodeChar := by
  fun_induction decodeFrom good bs generalizing cs with
  | case1 good bs c rest hc _ ih =>
      cases hrest : decodeFrom (good + c.utf8Size) rest with
      | error e => rw [hrest] at h; cases h
      | ok cs' =>
          rw [hrest] at h
          cases h
          rw [eq_utf8EncodeChar_append hc, List.flatMap_cons, ih hrest]
  | case2 good bs _ hempty =>
      cases h
      exact List.isEmpty_iff.mp hempty
  | case3 => cases h

/-- **Bytes are read as a text exactly if they are its encoding.** -/
theorem decode_eq_ok_iff {bs : List UInt8} {s : String} : decode bs = .ok s ↔ bs = bytes s := by
  constructor
  · intro h
    rw [decode] at h
    cases hcs : decodeFrom 0 bs with
    | error e => rw [hcs] at h; cases h
    | ok cs =>
        rw [hcs] at h
        cases h
        rw [bytes, String.toList_ofList, eq_flatMap_of_decodeFrom hcs]
  · rintro rfl
    exact decode_bytes s

end ClassDiagram.Text
