import DefectCatalog.Decimal.Binary64

/-!
# Shortest decimal digits

Every real number between the midpoints to the two neighbouring magnitudes
rounds to the magnitude with rank `r`, the midpoints included exactly when `r`
is even.  `shortest r` is a point of that interval on the coarsest decimal
grid that meets it, and of the two candidates on that grid the one nearest to
the magnitude: the fewest digits that read back, and the best of those.
-/

namespace DefectCatalog

/-- The decimal number `digits * 10 ^ exponent`. -/
structure Scientific where
  digits : Nat
  exponent : Int
deriving DecidableEq, Repr

namespace Binary64

/-- Whether `point * 10 ^ exponent` rounds to the magnitude with rank `r`.

Both sides are compared in halves of a unit, so that midpoints are integers. -/
def roundsTo (r point : Nat) (exponent : Int) : Bool :=
  let up := if exponent < 0 then 1 else Nat.pow 10 exponent.natAbs
  let down := if exponent < 0 then Nat.pow 10 exponent.natAbs else 1
  let value := point * up * (2 * unitsPerOne)
  let lower := (magnitudeOfRank (r - 1) + magnitudeOfRank r) * down
  let upper := (magnitudeOfRank r + magnitudeOfRank (r + 1)) * down
  if r % 2 = 0 then lower ≤ value && value ≤ upper else lower < value && value < upper

/-- The point of the grid `10 ^ exponent` nearest to the magnitude with rank `r` that rounds to
it, if there is one above zero. -/
def gridPoint? (r : Nat) (exponent : Int) : Option Nat :=
  let num := magnitudeOfRank r * (if exponent < 0 then Nat.pow 10 exponent.natAbs else 1)
  let den := unitsPerOne * (if exponent < 0 then 1 else Nat.pow 10 exponent.natAbs)
  let near := roundHalfEven num den
  let other := if near = num / den then near + 1 else num / den
  if near != 0 && roundsTo r near exponent then some near
  else if other != 0 && roundsTo r other exponent then some other
  else none

/-- Searches the grids `10 ^ exponent`, `10 ^ (exponent - 1)`, … for the first that meets the
interval of rank `r`. -/
def shortestFrom (r : Nat) (exponent : Int) : Nat → Scientific
  | 0 => ⟨magnitudeOfRank r, 0⟩
  | fuel + 1 =>
    match gridPoint? r exponent with
    | some digits => ⟨digits, exponent⟩
    | none => shortestFrom r (exponent - 1) fuel

/-- The decimal number with the fewest digits that rounds to the magnitude with rank `r`.

No grid coarser than the integer part's digit count can meet the interval, and every grid
finer than the smallest magnitude does. -/
def shortest (r : Nat) : Scientific :=
  if r = 0 then ⟨0, 0⟩
  else
    let start := (Nat.toDigits 10 (magnitudeOfRank r / unitsPerOne)).length
    shortestFrom r start (start + 350)

end Binary64

end DefectCatalog
