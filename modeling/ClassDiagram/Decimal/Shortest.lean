/-! # The shortest decimal of a binary number

A finite 64-bit binary number is `m · 2^q`, and every real of an interval around it is read back as
that number.  `shortest?` takes the coarsest grid of powers of ten that has a point in the interval:
it has the fewest digits.  Of two such points the nearer one is chosen (the even one on a tie). -/

namespace ClassDiagram.Decimal

/-- The number `digits · 10^exponent`. -/
structure Scaled where
  digits : Nat
  exponent : Int
  deriving DecidableEq, Repr

/-- The reals that are read back as one binary number.  The ends and the number itself are
numerators over `scale`; the ends belong to it only if `closed`. -/
structure Interval where
  low : Nat
  value : Nat
  high : Nat
  scale : Nat
  closed : Bool

/-- The interval of the positive number with the given exponent and fraction fields. -/
def Interval.ofFields (exponent fraction : Nat) : Interval :=
  let m := if exponent = 0 then fraction else fraction + Nat.pow 2 52
  let q := max exponent 1
  -- a power of two lies nearer to its lower neighbour than to its upper one
  let below := if fraction = 0 ∧ 1 < exponent then 1 else 2
  let up := Nat.pow 2 (q - 1077)
  { low := (4 * m - below) * up
    value := 4 * m * up
    high := (4 * m + 2) * up
    scale := Nat.pow 2 (1077 - q)
    closed := m % 2 == 0 }

/-- Whether the real `num / den` lies in the interval. -/
def Interval.contains (i : Interval) (num den : Nat) : Bool :=
  if i.closed then decide (i.low * den ≤ num * i.scale ∧ num * i.scale ≤ i.high * den)
  else decide (i.low * den < num * i.scale ∧ num * i.scale < i.high * den)

/-- The point of the grid of multiples of `10^k` that lies in the interval, nearest to the value. -/
def Interval.onGrid? (i : Interval) (k : Int) : Option Nat :=
  let up := Nat.pow 10 k.toNat
  let down := Nat.pow 10 (-k).toNat
  let lower := i.value * down / (i.scale * up)
  let twice := 2 * (i.value * down - lower * (i.scale * up))
  match i.contains (lower * up) down, i.contains ((lower + 1) * up) down with
  | false, false => none
  | true, false => some lower
  | false, true => some (lower + 1)
  | true, true =>
    if twice < i.scale * up ∨ (twice = i.scale * up ∧ lower % 2 = 0) then some lower
    else some (lower + 1)

/-- The shortest decimal in the interval, searched from the grid of `10^309` downwards. -/
def Interval.shortest? (i : Interval) : Option Scaled :=
  (List.range 640).findSome? fun (step : Nat) =>
    let k : Int := 309 - step
    (i.onGrid? k).map fun digits => ⟨digits, k⟩

/-- The shortest decimal that is read back as the magnitude of `x`; zero for a zero. -/
def shortest? (x : Float) : Option Scaled :=
  let bits := x.toBits.toNat
  let exponent := bits / Nat.pow 2 52 % Nat.pow 2 11
  let fraction := bits % Nat.pow 2 52
  if exponent = 2047 then none
  else if exponent = 0 ∧ fraction = 0 then some ⟨0, 0⟩
  else (Interval.ofFields exponent fraction).shortest?

/-- Whether the sign bit of `x` is set, also for a zero. -/
def isNegative (x : Float) : Bool := x.toBits.toNat / Nat.pow 2 63 == 1

end ClassDiagram.Decimal
