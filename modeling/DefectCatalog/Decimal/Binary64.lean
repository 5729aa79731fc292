/-!
# Finite binary64 numbers by rank

The finite magnitudes of the binary64 format form one increasing sequence
`0, 2^-1074, 2 * 2^-1074, …`.  A number is its sign and the place of its
magnitude in that sequence, its *rank*.  This makes the total order of the
format an order of integers (`totalKey`), and rounding a fraction to the
nearest number, ties to even, an exact computation on naturals
(`rankOfRatio`).

Infinities and not-a-number do not occur: a rank of `infinityRank` or more is
no number, and `ofScientific?` refuses to build one.
-/

namespace DefectCatalog

/-- A finite binary64 number: its sign and the rank of its magnitude. -/
structure Binary64 where
  negative : Bool
  rank : Nat
deriving DecidableEq, Repr

namespace Binary64

/-- The number of fraction bits. -/
def fractionBits : Nat := 52

/-- Two to the number of fraction bits; ranks below it are subnormal. -/
def hiddenBit : Nat := Nat.pow 2 fractionBits

/-- Magnitudes are counted in units of `1 / unitsPerOne`. -/
def unitsPerOne : Nat := Nat.pow 2 1074

/-- The first rank that is no finite number. -/
def infinityRank : Nat := 2047 * hiddenBit

/-- The integer significand of the magnitude with rank `r`. -/
def significand (r : Nat) : Nat :=
  if r < hiddenBit then r else hiddenBit + r % hiddenBit

/-- The binary exponent that goes with `significand r`. -/
def scale (r : Nat) : Nat :=
  r / hiddenBit - 1

/-- The magnitude with rank `r`, in units of `1 / unitsPerOne`. -/
def magnitudeOfRank (r : Nat) : Nat :=
  significand r * Nat.pow 2 (scale r)

/-- The magnitude of `x`, in units of `1 / unitsPerOne`. -/
def magnitude (x : Binary64) : Nat :=
  magnitudeOfRank x.rank

/-- The integer nearest to `num / den`, a half going to the even neighbour. -/
def roundHalfEven (num den : Nat) : Nat :=
  let q := num / den
  let r := num % den
  if 2 * r < den then q
  else if den < 2 * r then q + 1
  else if q % 2 = 0 then q
  else q + 1

/-- The rank of the magnitude nearest to `num / den`, a half going to the even rank. -/
def rankOfRatio (num den : Nat) : Nat :=
  let scale := (num * unitsPerOne / den).log2 - fractionBits
  scale * hiddenBit + roundHalfEven (num * unitsPerOne) (den * Nat.pow 2 scale)

/-- The number nearest to an integer. -/
def ofInt (n : Int) : Binary64 :=
  ⟨n < 0, rankOfRatio n.natAbs 1⟩

/-- The number nearest to `± digits * 10 ^ exponent`, unless it exceeds the format's range.

Exponents far outside the range are answered without building the power of ten. -/
def ofScientific? (negative : Bool) (digits : Nat) (exponent : Int) : Option Binary64 :=
  let width : Int := (Nat.toDigits 10 digits).length
  if digits = 0 || exponent + width < -400 then some ⟨negative, 0⟩
  else if 400 < exponent + width then none
  else
    let rank :=
      if exponent < 0 then rankOfRatio digits (Nat.pow 10 exponent.natAbs)
      else rankOfRatio (digits * Nat.pow 10 exponent.natAbs) 1
    if rank < infinityRank then some ⟨negative, rank⟩ else none

/-- The key of the format's total order: `-0` lies just below `0`. -/
def totalKey (x : Binary64) : Int :=
  if x.negative then -(x.rank : Int) - 1 else x.rank

/-- The total order of the format. -/
def totalCompare (x y : Binary64) : Ordering :=
  compare x.totalKey y.totalKey

/-- Whether `x` is an integer. -/
def isIntegral (x : Binary64) : Bool :=
  x.magnitude % unitsPerOne == 0

/-- The integer part of `x`, rounded toward zero. -/
def truncate (x : Binary64) : Int :=
  let n : Int := x.magnitude / unitsPerOne
  if x.negative then -n else n

end Binary64

end DefectCatalog
