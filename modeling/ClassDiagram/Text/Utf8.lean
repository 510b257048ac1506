/-! # UTF-8

The bytes of a string (`bytes`) and the strict reading of bytes as text (`decode`).  Reading refuses
overlong forms, surrogates and numbers above `0x10FFFF`, and says how many bytes before the first
offending sequence are good. -/

namespace ClassDiagram.Text

/-- The UTF-8 encoding of a string. -/
def bytes (s : String) : List UInt8 := s.toList.flatMap String.utf8EncodeChar

@[simp] theorem bytes_append (s t : String) : bytes (s ++ t) = bytes s ++ bytes t := by
  simp [bytes]

/-- What a lead byte announces. -/
structure Lead where
  /-- How many continuation bytes follow. -/
  following : Nat
  /-- The payload bits of the lead byte itself. -/
  payload : Nat
  /-- The least number that needs this many bytes. -/
  least : Nat

/-- The meaning of a first byte; `none` for a continuation byte and for bytes that never occur. -/
def lead? (b : UInt8) : Option Lead :=
  let n := b.toNat
  if n < 0x80 then some ⟨0, n, 0⟩
  else if n < 0xC0 then none
  else if n < 0xE0 then some ⟨1, n - 0xC0, 0x80⟩
  else if n < 0xF0 then some ⟨2, n - 0xE0, 0x800⟩
  else if n < 0xF8 then some ⟨3, n - 0xF0, 0x10000⟩
  else none

/-- Appends the payloads of `k` continuation bytes `10xxxxxx` to the bits `n`. -/
def continued? : (k n : Nat) → List UInt8 → Option (Nat × List UInt8)
  | 0, n, rest => some (n, rest)
  | _ + 1, _, [] => none
  | k + 1, n, b :: rest =>
    if 0x80 ≤ b.toNat ∧ b.toNat < 0xC0 then continued? k (n * 64 + (b.toNat - 0x80)) rest
    else none

/-- The first character of a byte sequence and the bytes after it. -/
def decodeChar? : List UInt8 → Option (Char × List UInt8)
  | [] => none
  | a :: tail => do
    let lead ← lead? a
    let (n, rest) ← continued? lead.following lead.payload tail
    if lead.least ≤ n ∧ n.isValidChar then some (Char.ofNat n, rest) else none

theorem length_le_of_continued? {k n m : Nat} {bs rest : List UInt8}
    (h : continued? k n bs = some (m, rest)) : rest.length ≤ bs.length := by
  fun_induction continued? k n bs <;> grind

/-- Reading a character uses up at least one byte. -/
theorem length_lt_of_decodeChar? {bs rest : List UInt8} {c : Char}
    (h : decodeChar? bs = some (c, rest)) : rest.length < bs.length := by
  cases bs with
  | nil => simp [decodeChar?] at h
  | cons a tail =>
    simp only [decodeChar?, bind, Option.bind_eq_some_iff] at h
    obtain ⟨lead, -, ⟨n, after⟩, hk, h⟩ := h
    have := length_le_of_continued? hk
    grind

/-- Reads all of `bs`; `good` is the number of bytes read before it. -/
def decodeFrom (good : Nat) (bs : List UInt8) : Except Nat (List Char) :=
  match h : decodeChar? bs with
  | some (c, rest) => do
    have := length_lt_of_decodeChar? h
    let cs ← decodeFrom (good + c.utf8Size) rest
    return c :: cs
  | none => if bs.isEmpty then .ok [] else .error good
termination_by bs.length

/-- The text that `bs` encodes, or the length of the longest good part at its front. -/
def decode (bs : List UInt8) : Except Nat String :=
  (decodeFrom 0 bs).map String.ofList

end ClassDiagram.Text
