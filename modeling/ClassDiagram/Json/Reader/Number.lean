import ClassDiagram.Json.Reader

/-! # Reading numbers

The digits of a number are collected into a 64-bit significand.  Digits that no longer fit are
dropped: before the point each raises the decimal exponent by one, after it they have no effect.  A
number without point and exponent stays an integer if it fits into 64 bits; any other becomes a
binary number by scaling its significand with a power of ten. -/

namespace ClassDiagram.Json.Reader

/-- The value of a digit. -/
def digitValue (b : UInt8) : Nat := b.toNat - 0x30

/-- Extends a number by digits as long as it stays below `limit`; also the digits that are left. -/
def accumulate (limit n : Nat) : List UInt8 → Nat × List UInt8
  | [] => (n, [])
  | d :: rest =>
    let m := n * 10 + digitValue d
    if m < limit then accumulate limit m rest else (n, d :: rest)

/-- A number as it is read: its sign, its significand and its decimal exponent. -/
structure Parts where
  negative : Bool
  significand : Nat
  exponent : Int

/-- A power of ten, the nearest binary number to it. -/
def powerOfTen (n : Nat) : Float := Float.ofScientific 1 false n

/-- The largest exponent whose power of ten is finite. -/
def maxPower : Nat := 308

/-- Divides by `10^n`, in steps if that power is not finite. -/
def scaleDown (x : Float) (n : Nat) : Float :=
  if n ≤ maxPower then x / powerOfTen n
  else if x == 0 then x
  else scaleDown (x / powerOfTen maxPower) (n - maxPower)
termination_by n
decreasing_by simp only [maxPower] at *; omega

/-- The magnitude of a number, unless it is too large. -/
def Parts.magnitude? (p : Parts) : Option Float :=
  let x := (UInt64.ofNat p.significand).toFloat
  if p.exponent < 0 then some (scaleDown x p.exponent.natAbs)
  else if p.exponent ≤ maxPower then
    let y := x * powerOfTen p.exponent.toNat
    if y.isInf then none else some y
  else if x == 0 then some x
  else none

/-- A magnitude with its sign. -/
def signed (negative : Bool) (x : Float) : Float := if negative then -x else x

/-- The binary number that the parts denote. -/
def Parts.real (p : Parts) : Reader Number :=
  match p.magnitude? with
  | some x => return .real (signed p.negative x)
  | none => refuse .numberTooLarge

/-- The number of the significands that fit. -/
def significandLimit : Nat := Nat.pow 2 64

/-- The number of the exponents that can be told apart. -/
def exponentLimit : Nat := Nat.pow 2 31

/-- A run of digits. -/
def digits : Reader (List UInt8) := span isDigit

/-- The digits of an exponent after those that make `n`; reading stops behind the first digit that
makes it too large. -/
def exponentDigits (n : Nat) : Reader (Option Nat) :=
  repeating (fun n => do
    match ← peek with
    | some c =>
      if c.isDigit then
        advance
        let m := n * 10 + (c.toNat - 0x30)
        if m < exponentLimit then return .again m else return .done none
      else return .done (some n)
    | none => return .done (some n)) n

/-- The sign of an exponent, if one is written: whether it is a minus. -/
def exponentSign : Reader Bool := do
  match ← peek with
  | some '+' => advance; return false
  | some '-' => advance; return true
  | _ => return false

/-- The exponent of a number, read in front of its `e`. -/
def exponentPart (p : Parts) : Reader Number := do
  advance
  let negative ← exponentSign
  match ← next with
  | none => refuse .valueEnds
  | some d =>
    if !isDigit d then refuse .badNumber
    match ← exponentDigits (digitValue d) with
    | some n =>
      Parts.real { p with exponent := if negative then p.exponent - n else p.exponent + n }
    | none =>
      if p.significand ≠ 0 ∧ !negative then refuse .numberTooLarge
      let _ ← digits
      return .real (signed p.negative 0)

/-- The decimals of a number, read in front of its point. -/
def fractionPart (p : Parts) : Reader Number := do
  advance
  let ds ← digits
  if ds.isEmpty then
    match ← peek with
    | some _ => refuseNext .badNumber
    | none => refuseNext .valueEnds
  let (significand, dropped) := accumulate significandLimit p.significand ds
  let used := ds.length - dropped.length
  let p := { p with significand, exponent := p.exponent - used }
  match ← peek with
  | some 'e' | some 'E' => exponentPart p
  | _ => p.real

/-- What follows the whole digits of a number. -/
def numberTail (p : Parts) (whole : Reader Number) : Reader Number := do
  match ← peek with
  | some '.' => fractionPart p
  | some 'e' | some 'E' => exponentPart p
  | _ => whole

/-- A whole number that fits into 64 bits stays an integer; the negative zero does not. -/
def wholeNumber (negative : Bool) (n : Nat) : Number :=
  if !negative then .integer n
  else if 0 < n ∧ n ≤ Nat.pow 2 63 then .integer (-n)
  else .real (-(UInt64.ofNat n).toFloat)

/-- A number, read after its sign. -/
def unsignedNumber (negative : Bool) : Reader Number := do
  match ← next with
  | none => refuse .valueEnds
  | some d =>
    if !isDigit d then refuse .badNumber
    if digitValue d = 0 then
      match ← peek with
      | some c => if c.isDigit then refuseNext .badNumber
      | none => pure ()
      numberTail ⟨negative, 0, 0⟩ (return wholeNumber negative 0)
    else
      let ds ← digits
      let (significand, dropped) := accumulate significandLimit (digitValue d) ds
      let p : Parts := ⟨negative, significand, dropped.length⟩
      numberTail p (if dropped.isEmpty then return wholeNumber negative significand else p.real)

/-- Passes over the exponent of a number, read in front of its `e`. -/
def skipExponent : Reader Unit := do
  advance
  match ← peek with
  | some '+' | some '-' => advance
  | _ => pure ()
  match ← next with
  | some d => if !isDigit d then refuse .badNumber
  | none => refuse .badNumber
  let _ ← digits

/-- Passes over a number, read after its sign. -/
def skipNumber : Reader Unit := do
  match ← next with
  | none => refuse .badNumber
  | some d =>
    if !isDigit d then refuse .badNumber
    if digitValue d = 0 then
      match ← peek with
      | some c => if c.isDigit then refuseNext .badNumber
      | none => pure ()
    else
      let _ ← digits
  match ← peek with
  | some '.' =>
    advance
    let ds ← digits
    let c ← peek
    if ds.isEmpty then refuseNext .badNumber
    match c with
    | some 'e' | some 'E' => skipExponent
    | _ => pure ()
  | some 'e' | some 'E' => skipExponent
  | _ => pure ()

end ClassDiagram.Json.Reader
