import DefectCatalog.Decimal.Scaling
import DefectCatalog.Decimal.Word
import DefectCatalog.Proofs.Decimal.Integers
import DefectCatalog.Proofs.Decimal.Shortest

/-!
# What scaling gives

Scaling rounds several times, so the number it gives need not be the nearest one.
It is always a finite number (`lt_of_scaled?`), and a decimal number that rounds
to a finite one before the last is never refused (`isSome_scaled?`).  It is the
nearest number where the digits and the power of ten are no longer than a
significand, because then only the last step rounds (`scaled?_of_short`).
-/

namespace DefectCatalog.Binary64

-- nothing below computes with this power, and elaboration must not either
attribute [local irreducible] unitsPerOne

variable {r r' s : Nat}

/-! ## Products and quotients -/

/-- A number is rounded to itself. -/
theorem rankOfRatio_magnitudeOfRank (r : Nat) :
    rankOfRatio (magnitudeOfRank r) unitsPerOne = r := by
  have hmono := magnitudeOfRank_strictMono.monotone (Nat.sub_le r 1)
  have hnext := magnitudeOfRank_lt_succ r
  have hvalue : magnitudeOfRank r * (2 * unitsPerOne) = 2 * magnitudeOfRank r * unitsPerOne := by
    ring
  have hself : Rounds r (magnitudeOfRank r) unitsPerOne := by
    refine ⟨?_, ?_, fun hodd => ?_⟩
    · rw [hvalue]
      exact Nat.mul_le_mul_right _ (by omega)
    · rw [hvalue]
      exact Nat.mul_le_mul_right _ (by omega)
    · have hprev := magnitudeOfRank_strictMono (show r - 1 < r by omega)
      rw [hvalue]
      constructor
      · exact Nat.ne_of_lt (Nat.mul_lt_mul_of_pos_right (by omega) unitsPerOne_pos)
      · exact Nat.ne_of_lt (Nat.mul_lt_mul_of_pos_right (by omega) unitsPerOne_pos)
  exact hself.rankOfRatio_eq unitsPerOne_pos

/-- Larger factors have no smaller product. -/
theorem mulRank_mono {s' : Nat} (hr : r ≤ r') (hs : s ≤ s') : mulRank r s ≤ mulRank r' s' := by
  have hmono := magnitudeOfRank_strictMono.monotone
  refine rankOfRatio_mono (Nat.mul_pos unitsPerOne_pos unitsPerOne_pos) ?_
  exact Nat.mul_le_mul (hmono hr) (hmono hs)

/-- Higher powers of ten are not smaller. -/
theorem powerRank_mono {j k : Nat} (h : j ≤ k) : powerRank j ≤ powerRank k :=
  rankOfRatio_mono Nat.one_pos (Nat.pow_le_pow_right (by decide) h)

/-- Expanding a fraction does not change its rank. -/
theorem rankOfRatio_mul_mul (num : Nat) {den k : Nat} (hden : 0 < den) (hk : 0 < k) :
    rankOfRatio (num * k) (den * k) = rankOfRatio num den :=
  ((rounds_rankOfRatio num hden).expand hk).rankOfRatio_eq (Nat.mul_pos hden hk)

/-- Dividing by one or more does not make a number greater. -/
theorem divRank_le (hs : unitsPerOne ≤ magnitudeOfRank s) (r : Nat) : divRank r s ≤ r := by
  have hpos : 0 < magnitudeOfRank s := unitsPerOne_pos.trans_le hs
  calc divRank r s
      = rankOfRatio (magnitudeOfRank r * unitsPerOne) (magnitudeOfRank s * unitsPerOne) :=
        (rankOfRatio_mul_mul _ hpos unitsPerOne_pos).symm
    _ ≤ rankOfRatio (magnitudeOfRank r * magnitudeOfRank s) (magnitudeOfRank s * unitsPerOne) :=
        rankOfRatio_mono (Nat.mul_pos hpos unitsPerOne_pos) (Nat.mul_le_mul_left _ hs)
    _ = rankOfRatio (magnitudeOfRank r) unitsPerOne := by
        rw [Nat.mul_comm (magnitudeOfRank s), rankOfRatio_mul_mul _ unitsPerOne_pos hpos]
    _ = r := rankOfRatio_magnitudeOfRank r

/-- No power of ten is below one. -/
theorem unitsPerOne_le_magnitudeOfRank_powerRank (k : Nat) :
    unitsPerOne ≤ magnitudeOfRank (powerRank k) := by
  have hone : roundedNat 1 ≤ roundedNat (10 ^ k) := roundedNat_mono (Nat.one_le_pow _ _ (by decide))
  rw [roundedNat_of_le (by decide)] at hone
  rw [powerRank, Nat.pow_eq, magnitudeOfRank_rankOfRatio_one]
  exact Nat.le_mul_of_pos_left _ hone

/-- Dividing by powers of ten makes no number larger. -/
theorem shrink_le (r steps : Nat) : shrink r steps ≤ r := by
  induction steps generalizing r with
  | zero => exact Nat.le_refl r
  | succ steps ih =>
      unfold shrink
      split
      · exact Nat.zero_le r
      · exact (ih _).trans (divRank_le (unitsPerOne_le_magnitudeOfRank_powerRank _) r)

/-! ## The range -/

/-- A number of 64 bits is rounded to a finite one. -/
theorem rankOfRatio_lt_of_word {digits : Nat} (h : digits ≤ Decimal.wordLimit) :
    rankOfRatio digits 1 < infinityRank := by
  have hlast : rankOfRatio Decimal.wordLimit 1 < infinityRank := by decide +kernel
  exact (rankOfRatio_mono Nat.one_pos h).trans_lt hlast

/-- **Scaling gives finite numbers.** -/
theorem lt_of_scaled? {digits : Nat} {exponent : Int} (hdigits : digits ≤ Decimal.wordLimit)
    (h : scaled? digits exponent = some r) : r < infinityRank := by
  have hrank := rankOfRatio_lt_of_word hdigits
  unfold scaled? at h
  dsimp only at h
  split at h
  · obtain rfl := Option.some.inj h
    exact ((divRank_le (unitsPerOne_le_magnitudeOfRank_powerRank _) _).trans
      (shrink_le _ _)).trans_lt hrank
  · split at h
    · obtain ⟨hfinite, heq⟩ := Option.ite_none_right_eq_some.mp h
      exact Option.some.inj heq ▸ hfinite
    · obtain ⟨-, heq⟩ := Option.ite_none_right_eq_some.mp h
      exact Option.some.inj heq ▸ (by decide)

/-- The midpoint between the two greatest finite numbers. -/
def lastMidpoint : Nat :=
  (magnitudeOfRank (infinityRank - 2) + magnitudeOfRank (infinityRank - 1)) / (2 * unitsPerOne)

/-- The last midpoint is halfway between the two greatest numbers. -/
theorem lastMidpoint_mul : lastMidpoint * (2 * unitsPerOne) =
    magnitudeOfRank (infinityRank - 2) + magnitudeOfRank (infinityRank - 1) := by
  decide +kernel

/-- What rounds to a number before the greatest one is not above the midpoint to it. -/
theorem Rounds.le_lastMidpoint {num den : Nat} (h : Rounds r num den) (hr : r + 1 < infinityRank) :
    num ≤ lastMidpoint * den := by
  have hmono := magnitudeOfRank_strictMono.monotone
  have hfirst : magnitudeOfRank r ≤ magnitudeOfRank (infinityRank - 2) := hmono (by omega)
  have hsecond : magnitudeOfRank (r + 1) ≤ magnitudeOfRank (infinityRank - 1) := hmono (by omega)
  have hupper : num * (2 * unitsPerOne) ≤ lastMidpoint * den * (2 * unitsPerOne) := by
    calc num * (2 * unitsPerOne)
        ≤ (magnitudeOfRank r + magnitudeOfRank (r + 1)) * den := h.le_upper
      _ ≤ lastMidpoint * (2 * unitsPerOne) * den := by
          rw [lastMidpoint_mul]
          exact Nat.mul_le_mul_right _ (Nat.add_le_add hfirst hsecond)
      _ = lastMidpoint * den * (2 * unitsPerOne) := by ring
  exact Nat.le_of_mul_le_mul_right hupper (Nat.mul_pos (by decide) unitsPerOne_pos)

/-- Up to that midpoint, the product with a power of ten is finite. -/
theorem mulRank_lt_infinityRank {digits k : Nat} (hdigits : digits ≤ Decimal.wordLimit)
    (hk : k ≤ greatestPower) (h : digits * 10 ^ k ≤ lastMidpoint) :
    mulRank (rankOfRatio digits 1) (powerRank k) < infinityRank := by
  by_cases hsmall : k ≤ 288
  · -- no 64 bits are enough to come near the end of the range
    have hlast : mulRank (rankOfRatio Decimal.wordLimit 1) (powerRank 288) < infinityRank := by
      decide +kernel
    have hrank := rankOfRatio_mono Nat.one_pos hdigits
    exact (mulRank_mono hrank (powerRank_mono hsmall)).trans_lt hlast
  · have hmost : ∀ j < 20, mulRank (rankOfRatio (lastMidpoint / 10 ^ (289 + j)) 1)
        (powerRank (289 + j)) < infinityRank := by
      decide +kernel
    obtain ⟨j, rfl⟩ := Nat.exists_eq_add_of_le (show 289 ≤ k by omega)
    have hle : digits ≤ lastMidpoint / 10 ^ (289 + j) :=
      (Nat.le_div_iff_mul_le (Nat.pow_pos (by decide))).mpr h
    have hrank := rankOfRatio_mono Nat.one_pos hle
    exact (mulRank_mono hrank (Nat.le_refl _)).trans_lt
      (hmost j (by rw [greatestPower] at hk; omega))

/-- **A decimal number up to that midpoint is not refused.** -/
theorem isSome_scaled? {digits : Nat} {exponent : Int} (hdigits : digits ≤ Decimal.wordLimit)
    (h : Scientific.num ⟨digits, exponent⟩ ≤
      lastMidpoint * Scientific.den ⟨digits, exponent⟩) : (scaled? digits exponent).isSome := by
  unfold scaled?
  dsimp only
  by_cases hneg : exponent < 0
  · rw [if_pos hneg]
    rfl
  · rw [if_neg hneg]
    rw [Scientific.num, Scientific.den, if_neg hneg, if_neg hneg, Nat.mul_one, Nat.pow_eq] at h
    dsimp only at h
    by_cases hsmall : exponent ≤ greatestPower
    · have hproduct := mulRank_lt_infinityRank hdigits
        (show exponent.natAbs ≤ greatestPower by omega) h
      rw [if_pos hsmall, if_pos hproduct]
      rfl
    · have hlarge : lastMidpoint < 10 ^ (greatestPower + 1) := by decide +kernel
      have hpow : 10 ^ (greatestPower + 1) ≤ 10 ^ exponent.natAbs :=
        Nat.pow_le_pow_right (by decide) (by omega)
      have hzero : digits = 0 := by
        by_contra hne
        have hle := Nat.le_mul_of_pos_left (10 ^ exponent.natAbs) (Nat.pos_of_ne_zero hne)
        omega
      have hrank : rankOfRatio 0 1 = 0 := by decide +kernel
      rw [if_neg hsmall, hzero, if_pos hrank]
      rfl

/-! ## The nearest number -/

/-- A power of ten whose odd part is no longer than a significand is not rounded. -/
theorem magnitudeOfRank_powerRank {k : Nat} (hk : k ≤ 22) :
    magnitudeOfRank (powerRank k) = 10 ^ k * unitsPerOne := by
  have hexact : ∀ k < 23, roundedNat (10 ^ k) = 10 ^ k := by decide +kernel
  rw [powerRank, Nat.pow_eq, magnitudeOfRank_rankOfRatio_one, hexact k (Nat.lt_succ_of_le hk)]

/-- **Few digits behind the point are read as the nearest number.** -/
theorem scaled?_of_short {digits k : Nat} (hdigits : digits ≤ 2 ^ 53) (hpos : 0 < k) (hk : k ≤ 22) :
    scaled? digits (-(k : Int)) = some (rankOfRatio digits (10 ^ k)) := by
  have hsteps : (k - 1) / greatestPower = 0 := Nat.div_eq_of_lt (by rw [greatestPower]; omega)
  have hquotient : divRank (rankOfRatio digits 1) (powerRank k) = rankOfRatio digits (10 ^ k) := by
    rw [divRank, magnitudeOfRank_rankOfRatio_one, roundedNat_of_le hdigits,
      magnitudeOfRank_powerRank hk]
    exact rankOfRatio_mul_mul digits (Nat.pow_pos (by decide)) unitsPerOne_pos
  unfold scaled?
  dsimp only
  rw [if_pos (by omega), Int.natAbs_neg, Int.natAbs_natCast, hsteps, Nat.zero_mul, Nat.sub_zero,
    shrink, hquotient]

end DefectCatalog.Binary64
