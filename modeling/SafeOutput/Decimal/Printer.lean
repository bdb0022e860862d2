import SafeOutput.Decimal.Shortest
import SafeOutput.Text.Basic

namespace SafeOutput.Decimal

open Text

/-- The exponent of the leading digit. -/
def leading (d : Decimal) : Int :=
  d.exponent + (decimal d.digits).length - 1

/-- Positional notation with at least one digit behind the point. -/
def positional (d : Decimal) : Text :=
  let ds := decimal d.digits
  if d.leading < 0 then "0.".toList ++ List.replicate (-d.leading - 1).toNat '0' ++ ds
  else
    let whole := (d.leading + 1).toNat
    let fraction := ds.drop whole
    (ds.take whole).rightpad whole '0' ++ '.' :: (if fraction.isEmpty then ['0'] else fraction)

/-- One digit before the point, and a signed exponent of two digits or more. -/
def scientific (d : Decimal) : Text :=
  let ds := decimal d.digits
  let fraction := ds.drop 1
  ds.take 1 ++ (if fraction.isEmpty then [] else '.' :: fraction) ++
    ['e', if d.leading < 0 then '-' else '+'] ++ (decimal d.leading.natAbs).leftpad 2 '0'

/-- Numbers from `10 ^ (-4)` up to `10 ^ 16` are written in positional notation, others with an
exponent. -/
def render (d : Decimal) : Text :=
  if -4 ≤ d.leading ∧ d.leading < 16 then d.positional else d.scientific

end SafeOutput.Decimal

namespace SafeOutput.Binary64

/-- The number with the fewest digits that read back. -/
def render (x : Binary64) : Text :=
  if x.isNaN then "nan".toList
  else
    (if x.isNegative then ['-'] else []) ++
      (if x.isInfinite then "inf".toList
        else if x.isZero then "0.0".toList
        else (Decimal.shortest x).render)

end SafeOutput.Binary64
