import DefectCatalog.Decimal.Binary64

/-!
# Reading decimal numbers by scaling

A quick way to read `digits * 10 ^ exponent`: the digits become a binary64 number,
which is multiplied or divided by a power of ten.  The digits, the power and the
result are rounded each on its own, so for many digits, or a large exponent, the
result need not be the number nearest to the decimal one.
-/

namespace DefectCatalog.Binary64

/-- The greatest exponent whose power of ten is a finite number. -/
def greatestPower : Nat := 308

/-- The rank of the number nearest to a power of ten. -/
def powerRank (k : Nat) : Nat :=
  rankOfRatio (Nat.pow 10 k) 1

/-- The rank of a rounded product. -/
def mulRank (r s : Nat) : Nat :=
  rankOfRatio (magnitudeOfRank r * magnitudeOfRank s) (unitsPerOne * unitsPerOne)

/-- The rank of a rounded quotient. -/
def divRank (r s : Nat) : Nat :=
  rankOfRatio (magnitudeOfRank r) (magnitudeOfRank s)

/-- Divides by the greatest power of ten a number of times, as long as anything is left. -/
def shrink (r : Nat) : Nat → Nat
  | 0 => r
  | steps + 1 => if r = 0 then 0 else shrink (divRank r (powerRank greatestPower)) steps

/-- The rank of `digits * 10 ^ exponent` by scaling, unless a product exceeds the format's range. -/
def scaled? (digits : Nat) (exponent : Int) : Option Nat :=
  let r := rankOfRatio digits 1
  if exponent < 0 then
    let k := exponent.natAbs
    let steps := (k - 1) / greatestPower
    some (divRank (shrink r steps) (powerRank (k - steps * greatestPower)))
  else if exponent ≤ greatestPower then
    let product := mulRank r (powerRank exponent.natAbs)
    if product < infinityRank then some product else none
  else if r = 0 then some 0
  else none

end DefectCatalog.Binary64
