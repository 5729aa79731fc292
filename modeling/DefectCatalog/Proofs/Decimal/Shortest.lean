import DefectCatalog.Decimal.Shortest
import DefectCatalog.Proofs.Decimal.Rounding

/-!
# Shortest digits read back

A decimal number is a fraction.  The search for the shortest digits ends with one
that rounds to the rank it started from (`rounds_shortest`): the grid of the
exponent -349 is finer than any two neighbouring magnitudes, so one of the grids
that are searched has such a number.
-/

namespace DefectCatalog

namespace Scientific

/-- The numerator of a decimal number. -/
def num (s : Scientific) : Nat :=
  s.digits * if s.exponent < 0 then 1 else Nat.pow 10 s.exponent.natAbs

/-- The denominator of a decimal number. -/
def den (s : Scientific) : Nat :=
  if s.exponent < 0 then Nat.pow 10 s.exponent.natAbs else 1

theorem den_pos (s : Scientific) : 0 < s.den := by
  unfold den
  split
  · exact Nat.pow_pos (by decide)
  · decide

/-- Without digits the value is zero. -/
theorem num_eq_zero {s : Scientific} (h : s.digits = 0) : s.num = 0 := by
  rw [num, h, Nat.zero_mul]

end Scientific

namespace Binary64

variable {r : Nat}

-- nothing below computes with this power, and elaboration must not either
attribute [local irreducible] unitsPerOne

/-! ## The search -/

/-- The test on digits is whether they are rounded to the number. -/
theorem roundsTo_iff {digits : Nat} {exponent : Int} : roundsTo r digits exponent = true ↔
    Rounds r (Scientific.num ⟨digits, exponent⟩) (Scientific.den ⟨digits, exponent⟩) := by
  unfold roundsTo Scientific.num Scientific.den
  dsimp only
  rcases Nat.mod_two_eq_zero_or_one r with heven | hodd
  · rw [if_pos heven, Bool.and_eq_true, decide_eq_true_eq, decide_eq_true_eq]
    exact ⟨fun h => ⟨h.1, h.2, fun hodd => by omega⟩, fun h => ⟨h.lower_le, h.le_upper⟩⟩
  · rw [if_neg (by omega), Bool.and_eq_true, decide_eq_true_eq, decide_eq_true_eq]
    constructor
    · intro h
      exact ⟨Nat.le_of_lt h.1, Nat.le_of_lt h.2, fun _ => ⟨Nat.ne_of_lt h.1, Nat.ne_of_lt h.2⟩⟩
    · intro h
      obtain ⟨hlower, hupper⟩ := h.ne_of_odd hodd
      exact ⟨Nat.lt_of_le_of_ne h.lower_le hlower, Nat.lt_of_le_of_ne h.le_upper hupper⟩

/-- Of two candidates for the point of a grid, the first that is good. -/
theorem of_firstGood {near other digits : Nat} {p : Nat → Bool}
    (h : (if near != 0 && p near then some near
      else if other != 0 && p other then some other else none) = some digits) :
    p digits = true := by
  split at h
  · next hnear =>
      obtain rfl := Option.some.inj h
      exact (Bool.and_eq_true_iff.mp hnear).2
  · split at h
    · next hother =>
        obtain rfl := Option.some.inj h
        exact (Bool.and_eq_true_iff.mp hother).2
    · cases h

/-- If the nearer of two candidates is good, one is taken. -/
theorem isSome_firstGood {near other : Nat} {p : Nat → Bool} (hpos : 0 < near)
    (hgood : p near = true) :
    (if near != 0 && p near then some near
      else if other != 0 && p other then some other else none).isSome := by
  have hnear : (near != 0 && p near) = true := by
    rw [Bool.and_eq_true, bne_iff_ne]
    exact ⟨Nat.ne_of_gt hpos, hgood⟩
  rw [if_pos hnear]
  rfl

/-- What is found on a grid is rounded to the number. -/
theorem roundsTo_of_gridPoint? {exponent : Int} {digits : Nat}
    (h : gridPoint? r exponent = some digits) : roundsTo r digits exponent = true := by
  unfold gridPoint? at h
  exact of_firstGood (p := fun digits => roundsTo r digits exponent) h

/-- Where a grid has no point, the next finer one is searched. -/
theorem shortestFrom_succ (r : Nat) (exponent : Int) (fuel : Nat) :
    shortestFrom r exponent (fuel + 1) =
      match gridPoint? r exponent with
      | some digits => ⟨digits, exponent⟩
      | none => shortestFrom r (exponent - 1) fuel := rfl

/-- The search ends on one of its grids, if any of them has a point. -/
theorem rounds_shortestFrom {exponent : Int} {fuel : Nat}
    (h : ∃ k < fuel, (gridPoint? r (exponent - (k : Nat))).isSome) :
    Rounds r (shortestFrom r exponent fuel).num (shortestFrom r exponent fuel).den := by
  induction fuel generalizing exponent with
  | zero =>
      obtain ⟨k, hk, -⟩ := h
      exact absurd hk (Nat.not_lt_zero k)
  | succ fuel ih =>
      rw [shortestFrom_succ]
      cases hpoint : gridPoint? r exponent with
      | some digits => exact roundsTo_iff.mp (roundsTo_of_gridPoint? hpoint)
      | none =>
          obtain ⟨k, hk, hsome⟩ := h
          cases k with
          | zero =>
              rw [Int.natCast_zero, Int.sub_zero, hpoint] at hsome
              cases hsome
          | succ k =>
              refine ih ⟨k, by omega, ?_⟩
              have hshift : exponent - 1 - (k : Int) = exponent - ((k + 1 : Nat) : Int) := by omega
              rw [hshift]
              exact hsome

/-- On a grid finer than the distance of two magnitudes, the nearest point rounds
to the magnitude. -/
theorem rounds_of_fine {grid near : Nat} (hr : 0 < r) (hgrid : unitsPerOne < grid)
    (hnear : near = roundHalfEven (magnitudeOfRank r * grid) unitsPerOne) :
    0 < near ∧ Rounds r near grid := by
  obtain ⟨hlow, hhigh, -⟩ := roundHalfEven_spec (magnitudeOfRank r * grid) unitsPerOne_pos
  rw [← hnear] at hlow hhigh
  have hbelow : (magnitudeOfRank (r - 1) + 1) * grid ≤ magnitudeOfRank r * grid :=
    Nat.mul_le_mul_right grid (magnitudeOfRank_strictMono (Nat.sub_lt hr Nat.one_pos))
  have habove : (magnitudeOfRank r + 1) * grid ≤ magnitudeOfRank (r + 1) * grid :=
    Nat.mul_le_mul_right grid (magnitudeOfRank_lt_succ r)
  rw [Nat.succ_mul] at hbelow habove
  have hvalue : near * (2 * unitsPerOne) = 2 * near * unitsPerOne := by ring
  have hpos : 0 < near := by
    rcases Nat.eq_zero_or_pos near with hzero | hpos
    · rw [hzero] at hhigh
      omega
    · exact hpos
  refine ⟨hpos, ?_, ?_, fun _ => ?_⟩ <;> rw [hvalue, Nat.add_mul] <;> try rw [Nat.add_mul]
  all_goals omega

/-- A grid that is fine enough has a point for every number. -/
theorem isSome_gridPoint?_of_fine {exponent : Int} (hr : 0 < r) (hneg : exponent < 0)
    (hgrid : unitsPerOne < Nat.pow 10 exponent.natAbs) : (gridPoint? r exponent).isSome := by
  obtain ⟨hpos, hrounds⟩ := rounds_of_fine hr hgrid rfl
  have hgood : roundsTo r (roundHalfEven (magnitudeOfRank r * Nat.pow 10 exponent.natAbs)
      unitsPerOne) exponent = true := by
    rw [roundsTo_iff, Scientific.num, Scientific.den, if_pos hneg, if_pos hneg, Nat.mul_one]
    exact hrounds
  unfold gridPoint?
  dsimp only
  rw [if_pos hneg, if_pos hneg, Nat.mul_one]
  exact isSome_firstGood (p := fun digits => roundsTo r digits exponent) hpos hgood

/-- **The shortest digits round to the rank they were found for.** -/
theorem rounds_shortest (r : Nat) : Rounds r (shortest r).num (shortest r).den := by
  unfold shortest
  split
  · next hzero =>
      subst hzero
      exact roundsTo_iff.mp (by decide +kernel)
  · next hne =>
      have hgrid : unitsPerOne < Nat.pow 10 (-349 : Int).natAbs := by decide +kernel
      have hfine := isSome_gridPoint?_of_fine (Nat.pos_of_ne_zero hne) (by decide) hgrid
      generalize (Nat.toDigits 10 (magnitudeOfRank r / unitsPerOne)).length = start
      refine rounds_shortestFrom ⟨start + 349, by omega, ?_⟩
      have hlast : (start : Int) - ((start + 349 : Nat) : Int) = -349 := by omega
      rw [hlast]
      exact hfine

/-- Zero rounds to the first rank only. -/
theorem Rounds.eq_zero {den : Nat} (h : Rounds r 0 den) (hden : 0 < den) : r = 0 := by
  by_contra hne
  have hlt := magnitudeOfRank_strictMono (Nat.pos_of_ne_zero hne)
  have hpos : 0 < (magnitudeOfRank (r - 1) + magnitudeOfRank r) * den :=
    Nat.mul_pos (by omega) hden
  have hlower := h.lower_le
  omega

end Binary64

end DefectCatalog
