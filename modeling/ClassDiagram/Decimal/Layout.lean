import ClassDiagram.Decimal.Shortest

/-! # Writing decimals

How a decimal is laid out: positionally if the exponent of its leading digit lies in a given range,
and otherwise with one digit before the point and a signed exponent.  `Layout.render` writes a
binary number with the digits that `shortest?` chooses. -/

namespace ClassDiagram.Decimal

/-- The exponents of the leading digit that are written positionally. -/
structure Layout where
  plainFrom : Int
  plainTo : Int

/-- The decimal digits of a natural number. -/
def digitsText (n : Nat) : String := String.ofList (Nat.toDigits 10 n)

/-- A run of zeros. -/
def zeros (n : Nat) : String := String.ofList (List.replicate n '0')

/-- A decimal without a sign.  A positional number always shows a digit after the point. -/
def Layout.decimal (l : Layout) (d : Scaled) : String :=
  let digits := Nat.toDigits 10 d.digits
  let leading := d.exponent + digits.length - 1
  if l.plainFrom ≤ leading ∧ leading ≤ l.plainTo then
    if 0 ≤ d.exponent then String.ofList digits ++ zeros d.exponent.toNat ++ ".0"
    else if 0 ≤ leading then
      let whole := (leading + 1).toNat
      String.ofList (digits.take whole) ++ "." ++ String.ofList (digits.drop whole)
    else "0." ++ zeros (-leading - 1).toNat ++ String.ofList digits
  else
    let fraction := digits.drop 1
    String.ofList (digits.take 1)
      ++ (if fraction.isEmpty then "" else "." ++ String.ofList fraction)
      ++ "e" ++ (if leading < 0 then "-" else "+") ++ digitsText leading.natAbs

/-- A binary number; a question mark stands for one that is not finite. -/
def Layout.render (l : Layout) (x : Float) : String :=
  (if isNegative x then "-" else "") ++ ((shortest? x).map l.decimal).getD "?"

end ClassDiagram.Decimal
