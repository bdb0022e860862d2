import SafeOutput.Decimal.Binary64

namespace SafeOutput

/-- The number `digits * 10 ^ exponent`. -/
structure Decimal where
  digits : Nat
  exponent : Int
  deriving DecidableEq, Repr

namespace Decimal

/-- The reals that round to one number in double precision, as multiples of `1 / denominator`. -/
structure Interval where
  low : Nat
  mid : Nat
  high : Nat
  denominator : Nat
  closed : Bool

/-- The interval of a finite number that is not zero. Its lower half is shorter where the exponent
steps. -/
def Interval.of (x : Binary64) : Interval :=
  let m := 4 * x.significand
  let below := if x.fractionField = 0 ∧ 1 < x.exponentField then 1 else 2
  let scale := Nat.pow 2 (x.exponent - 2).toNat
  { low := (m - below) * scale
    mid := m * scale
    high := (m + 2) * scale
    denominator := Nat.pow 2 (2 - x.exponent).toNat
    closed := x.significand % 2 == 0 }

def Interval.onGrid (i : Interval) (exponent : Int) : Interval :=
  let up := Nat.pow 10 (-exponent).toNat
  { i with
    low := i.low * up
    mid := i.mid * up
    high := i.high * up
    denominator := i.denominator * Nat.pow 10 exponent.toNat }

def Interval.contains (i : Interval) (n : Nat) : Bool :=
  let p := n * i.denominator
  if i.closed then i.low ≤ p && p ≤ i.high else i.low < p && p < i.high

/-- The grid point of the interval that is nearest to its number, the upper one of two; `none` if
neither neighbour of the number lies in the interval. -/
def Interval.nearest? (i : Interval) : Option Nat :=
  let n := i.mid / i.denominator
  let lowerHit := i.contains n
  let upperHit := i.contains (n + 1)
  let upperNearer := (2 * n + 1) * i.denominator ≤ 2 * i.mid
  if upperHit && (!lowerHit || upperNearer) then some (n + 1)
  else if lowerHit then some n
  else none

/-- The number of digits before the point; negative for zeros behind it. -/
def Interval.magnitude (i : Interval) : Int :=
  (Nat.toDigits 10 (i.mid * Nat.pow 10 330 / i.denominator)).length - 330

/-- Removes zeros from the end of the digits, at most `fuel` of them. -/
def trimZeros (fuel : Nat) (d : Decimal) : Decimal :=
  match fuel with
  | 0 => d
  | fuel + 1 =>
    if d.digits ≠ 0 ∧ d.digits % 10 = 0 then trimZeros fuel ⟨d.digits / 10, d.exponent + 1⟩ else d

/-- The fewest digits that read back as the number, and of those the nearest. Seventeen always
suffice. -/
def shortest (x : Binary64) : Decimal :=
  let i := Interval.of x
  let found := (List.range 17).findSome? fun (n : Nat) =>
    let exponent := i.magnitude - (n + 1)
    (i.onGrid exponent).nearest?.map fun digits => Decimal.mk digits exponent
  trimZeros 17 (found.getD ⟨0, 0⟩)

end Decimal

end SafeOutput
