import DefectCatalog.Decimal.Binary64
import Mathlib.Tactic.Ring

/-!
# Rounding to a rank

A fraction rounds to a rank if it lies between the midpoints to the two
neighbouring magnitudes, on a midpoint only if the rank is even (`Rounds`).
These intervals do not overlap (`Rounds.unique`), and the rank that is computed
for a fraction has it in its interval (`rounds_rankOfRatio`); so any rank whose
interval holds a fraction is the one that is computed.
-/

namespace DefectCatalog.Binary64

theorem hiddenBit_pos : 0 < hiddenBit := by decide

theorem unitsPerOne_pos : 0 < unitsPerOne := by decide +kernel

/-! ## The sequence of magnitudes -/

/-- A significand of full width, or any with the least exponent, and the one
after the last of its width. -/
theorem magnitudeOfRank_eq {s q : Nat} (hq : hiddenBit ≤ q ∨ s = 0) (hle : q ≤ 2 * hiddenBit) :
    magnitudeOfRank (s * hiddenBit + q) = q * 2 ^ s := by
  have hpos := hiddenBit_pos
  have hfull {s q : Nat} (hq : hiddenBit ≤ q) (hlt : q < 2 * hiddenBit) :
      magnitudeOfRank (s * hiddenBit + q) = q * 2 ^ s := by
    have hrank : s * hiddenBit + q = hiddenBit * (s + 1) + (q - hiddenBit) := by
      rw [Nat.mul_add, Nat.mul_comm]
      omega
    have hdiv : (s * hiddenBit + q) / hiddenBit = s + 1 := by
      rw [hrank, Nat.mul_add_div hpos, Nat.div_eq_of_lt (by omega), Nat.add_zero]
    have hmod : (s * hiddenBit + q) % hiddenBit = q - hiddenBit := by
      rw [hrank, Nat.mul_add_mod, Nat.mod_eq_of_lt (by omega)]
    have hsignificand : significand (s * hiddenBit + q) = q := by
      rw [significand, if_neg (by omega), hmod]
      omega
    rw [magnitudeOfRank, hsignificand, scale, hdiv]
    rfl
  rcases Nat.lt_or_ge q hiddenBit with hlow | hhigh
  · obtain rfl : s = 0 := hq.resolve_left (by omega)
    rw [Nat.zero_mul, Nat.zero_add, magnitudeOfRank, significand, if_pos hlow, scale,
      Nat.div_eq_of_lt hlow]
    rfl
  · rcases Nat.lt_or_eq_of_le hle with hlt | rfl
    · exact hfull hhigh hlt
    · have hrank : s * hiddenBit + 2 * hiddenBit = (s + 1) * hiddenBit + hiddenBit := by ring
      rw [hrank, hfull (Nat.le_refl _) (by omega)]
      ring

/-- A rank is its exponent and its significand. -/
theorem scale_mul_add_significand (r : Nat) :
    scale r * hiddenBit + significand r = r ∧ (hiddenBit ≤ significand r ∨ scale r = 0) ∧
      significand r < 2 * hiddenBit := by
  have hpos := hiddenBit_pos
  unfold scale significand
  split
  · next hlow =>
      rw [Nat.div_eq_of_lt hlow]
      omega
  · next hhigh =>
      have hdiv := Nat.div_add_mod r hiddenBit
      have hmod := Nat.mod_lt r hpos
      have hone : 1 ≤ r / hiddenBit := (Nat.one_le_div_iff hpos).mpr (Nat.le_of_not_lt hhigh)
      have hsplit : (r / hiddenBit - 1) * hiddenBit + hiddenBit = hiddenBit * (r / hiddenBit) := by
        rw [← Nat.succ_mul, Nat.succ_eq_add_one, Nat.sub_add_cancel hone, Nat.mul_comm]
      omega

/-- The next magnitude is one unit of the exponent away. -/
theorem magnitudeOfRank_succ (r : Nat) :
    magnitudeOfRank (r + 1) = magnitudeOfRank r + 2 ^ scale r := by
  obtain ⟨hrank, hq, hlt⟩ := scale_mul_add_significand r
  have hnext : r + 1 = scale r * hiddenBit + (significand r + 1) := by omega
  rw [hnext, magnitudeOfRank_eq (hq.imp_left Nat.le_succ_of_le) hlt, magnitudeOfRank]
  exact Nat.succ_mul ..

/-- The next rank is that of a larger number. -/
theorem magnitudeOfRank_lt_succ (r : Nat) : magnitudeOfRank r < magnitudeOfRank (r + 1) := by
  have hpos := Nat.two_pow_pos (scale r)
  rw [magnitudeOfRank_succ]
  omega

/-- **Ranks have the order of the numbers.** -/
theorem magnitudeOfRank_strictMono : StrictMono magnitudeOfRank :=
  strictMono_nat_of_lt_succ magnitudeOfRank_lt_succ

/-! ## The interval of a rank -/

/-- A fraction lies between the midpoints around a magnitude, on one of them only
for an even rank.  Both sides are counted in halves of a unit. -/
structure Rounds (r num den : Nat) : Prop where
  lower_le : (magnitudeOfRank (r - 1) + magnitudeOfRank r) * den ≤ num * (2 * unitsPerOne)
  le_upper : num * (2 * unitsPerOne) ≤ (magnitudeOfRank r + magnitudeOfRank (r + 1)) * den
  ne_of_odd : r % 2 = 1 →
    (magnitudeOfRank (r - 1) + magnitudeOfRank r) * den ≠ num * (2 * unitsPerOne) ∧
      num * (2 * unitsPerOne) ≠ (magnitudeOfRank r + magnitudeOfRank (r + 1)) * den

variable {r r' num den : Nat}

/-- The interval of a rank ends where that of the next one begins. -/
theorem Rounds.not_lt (hden : 0 < den) (h : Rounds r num den) (h' : Rounds r' num den) :
    ¬ r < r' := by
  intro hlt
  have hmono := magnitudeOfRank_strictMono.monotone
  have hfirst : magnitudeOfRank r ≤ magnitudeOfRank (r' - 1) := hmono (by omega)
  have hsecond : magnitudeOfRank (r + 1) ≤ magnitudeOfRank r' := hmono hlt
  have hchain := h'.lower_le.trans h.le_upper
  have hsum := Nat.le_of_mul_le_mul_right hchain hden
  -- so the fraction is the midpoint between two neighbours, and one of them is odd
  have hnext : r' = r + 1 := by
    by_contra hne
    have hstrict := magnitudeOfRank_strictMono (show r < r' - 1 by omega)
    omega
  subst hnext
  have hmid : num * (2 * unitsPerOne) = (magnitudeOfRank r + magnitudeOfRank (r + 1)) * den :=
    Nat.le_antisymm h.le_upper h'.lower_le
  rcases Nat.mod_two_eq_zero_or_one r with heven | hodd
  · exact (h'.ne_of_odd (by omega)).1 hmid.symm
  · exact (h.ne_of_odd hodd).2 hmid

/-- **A fraction rounds to one rank only.** -/
theorem Rounds.unique (hden : 0 < den) (h : Rounds r num den) (h' : Rounds r' num den) :
    r = r' :=
  Nat.le_antisymm (Nat.le_of_not_lt (h'.not_lt hden h)) (Nat.le_of_not_lt (h.not_lt hden h'))

/-- Expanding a fraction does not change what it rounds to. -/
theorem Rounds.expand (h : Rounds r num den) {k : Nat} (hk : 0 < k) :
    Rounds r (num * k) (den * k) := by
  have hvalue : num * k * (2 * unitsPerOne) = num * (2 * unitsPerOne) * k := by ring
  have hbound (m : Nat) : m * (den * k) = m * den * k := (Nat.mul_assoc ..).symm
  constructor
  · rw [hvalue, hbound]
    exact Nat.mul_le_mul_right k h.lower_le
  · rw [hvalue, hbound]
    exact Nat.mul_le_mul_right k h.le_upper
  · intro hodd
    rw [hvalue, hbound, hbound]
    obtain ⟨hlower, hupper⟩ := h.ne_of_odd hodd
    exact ⟨fun heq => hlower (Nat.eq_of_mul_eq_mul_right hk heq),
      fun heq => hupper (Nat.eq_of_mul_eq_mul_right hk heq)⟩

/-! ## The rank that is computed -/

/-- Rounding moves a fraction by half an integer at most, and by all of it only
to an even integer. -/
theorem roundHalfEven_spec (num : Nat) (hden : 0 < den) :
    2 * roundHalfEven num den * den ≤ 2 * num + den ∧
      2 * num ≤ 2 * roundHalfEven num den * den + den ∧
      (roundHalfEven num den % 2 = 1 →
        2 * roundHalfEven num den * den ≠ 2 * num + den ∧
          2 * num ≠ 2 * roundHalfEven num den * den + den) := by
  have hdiv := Nat.div_add_mod num den
  have hmod := Nat.mod_lt num hden
  have hdown : 2 * (num / den) * den = 2 * (den * (num / den)) := by ring
  have hup : 2 * (num / den + 1) * den = 2 * (den * (num / den)) + 2 * den := by ring
  unfold roundHalfEven
  dsimp only
  split
  · omega
  · split
    · omega
    · split <;> omega

/-- Rounding goes down to the quotient at most. -/
theorem div_le_roundHalfEven (num den : Nat) : num / den ≤ roundHalfEven num den := by
  unfold roundHalfEven
  dsimp only
  split
  · exact Nat.le_refl _
  · split
    · exact Nat.le_succ _
    · split
      · exact Nat.le_refl _
      · exact Nat.le_succ _

/-- Rounding goes up to the number after the quotient at most. -/
theorem roundHalfEven_le_succ (num den : Nat) : roundHalfEven num den ≤ num / den + 1 := by
  unfold roundHalfEven
  dsimp only
  split
  · exact Nat.le_succ _
  · split
    · exact Nat.le_refl _
    · split
      · exact Nat.le_succ _
      · exact Nat.le_refl _

/-- The exponent that is chosen leaves a significand of full width, or is the least one. -/
theorem significand_of_log2 {m : Nat} (k : Nat) (hk : k = m.log2 - fractionBits) :
    (hiddenBit ≤ m / 2 ^ k ∨ k = 0) ∧ m / 2 ^ k < 2 * hiddenBit := by
  have hwidth : 2 * hiddenBit = 2 ^ 53 := by decide
  rcases Nat.eq_zero_or_pos m with rfl | hm
  · obtain rfl : k = 0 := by simpa using hk
    exact ⟨Or.inr rfl, by decide⟩
  · have hupper : m < 2 ^ (m.log2 + 1) := Nat.lt_log2_self
    have hlower : 2 ^ m.log2 ≤ m := Nat.log2_self_le (by omega)
    rw [fractionBits] at hk
    constructor
    · rcases Nat.eq_zero_or_pos k with hzero | hpos
      · exact Or.inr hzero
      · left
        have hsplit : 2 ^ m.log2 = hiddenBit * 2 ^ k := by
          rw [hiddenBit, fractionBits, Nat.pow_eq, ← Nat.pow_add]
          congr 1
          omega
        rw [Nat.le_div_iff_mul_le (Nat.two_pow_pos k), ← hsplit]
        exact hlower
    · rw [Nat.div_lt_iff_lt_mul (Nat.two_pow_pos k), hwidth, ← Nat.pow_add]
      exact hupper.trans_le (Nat.pow_le_pow_right (by decide) (by omega))

/-- A number with its hidden bit has at least the scale it was put together with. -/
theorem le_scale {s q : Nat} (hq : hiddenBit ≤ q ∨ s = 0) : s ≤ scale (s * hiddenBit + q) := by
  rcases hq with hq | rfl
  · have hle : (s + 1) * hiddenBit ≤ s * hiddenBit + q := by
      rw [Nat.succ_mul]
      omega
    have hdiv := (Nat.le_div_iff_mul_le hiddenBit_pos).mpr hle
    unfold scale
    omega
  · exact Nat.zero_le _

/-- A rank is even if its significand is. -/
theorem rank_mod_two (s q : Nat) : (s * hiddenBit + q) % 2 = q % 2 := by
  have heven : hiddenBit = 2 * 2 ^ 51 := by decide
  have hmul : s * hiddenBit = 2 * (s * 2 ^ 51) := by
    rw [heven]
    ring
  omega

/-- Above a magnitude, the midpoint is at least half a unit of its exponent away. -/
theorem le_midpoint_above {s q : Nat} (hq : hiddenBit ≤ q ∨ s = 0) (hle : q ≤ 2 * hiddenBit)
    (den : Nat) :
    2 * q * (den * 2 ^ s) + den * 2 ^ s ≤
      (magnitudeOfRank (s * hiddenBit + q) + magnitudeOfRank (s * hiddenBit + q + 1)) * den := by
  have hgap : den * 2 ^ s ≤ den * 2 ^ scale (s * hiddenBit + q) :=
    Nat.mul_le_mul_left den (Nat.pow_le_pow_right (by decide) (le_scale hq))
  have hsum : (magnitudeOfRank (s * hiddenBit + q) + magnitudeOfRank (s * hiddenBit + q + 1)) *
      den = 2 * q * (den * 2 ^ s) + den * 2 ^ scale (s * hiddenBit + q) := by
    rw [magnitudeOfRank_succ, magnitudeOfRank_eq hq hle]
    ring
  omega

/-- Below the magnitude of a significand that is not the first of its exponent, the
midpoint is half a unit away. -/
theorem midpoint_below {s f : Nat} (hf : hiddenBit ≤ f ∨ s = 0) (hlt : f < 2 * hiddenBit)
    (den : Nat) :
    (magnitudeOfRank (s * hiddenBit + (f + 1) - 1) + magnitudeOfRank (s * hiddenBit + (f + 1))) *
      den + den * 2 ^ s = 2 * (f + 1) * (den * 2 ^ s) := by
  have hnext : hiddenBit ≤ f + 1 ∨ s = 0 := hf.imp_left Nat.le_succ_of_le
  rw [← Nat.add_assoc, Nat.add_sub_cancel, Nat.add_assoc, magnitudeOfRank_eq hf (Nat.le_of_lt hlt),
    magnitudeOfRank_eq hnext hlt]
  ring

/-- A magnitude is at least the midpoint below it, and it is none for an odd rank. -/
theorem midpoint_le_magnitude (r den : Nat) :
    (magnitudeOfRank (r - 1) + magnitudeOfRank r) * den ≤ 2 * (magnitudeOfRank r * den) ∧
      (0 < den → r % 2 = 1 →
        (magnitudeOfRank (r - 1) + magnitudeOfRank r) * den < 2 * (magnitudeOfRank r * den)) := by
  have hdouble : 2 * (magnitudeOfRank r * den) = 2 * magnitudeOfRank r * den := by ring
  rw [hdouble]
  constructor
  · have hmono := magnitudeOfRank_strictMono.monotone (Nat.sub_le r 1)
    exact Nat.mul_le_mul_right den (by omega)
  · intro hden hodd
    have hstrict := magnitudeOfRank_strictMono (show r - 1 < r by omega)
    exact Nat.mul_lt_mul_of_pos_right (by omega) hden

/-- The nearest integer is a significand of the rank that a fraction rounds to. -/
theorem rounds_of_roundHalfEven {s f : Nat} (hden : 0 < den)
    (hf : f = num * unitsPerOne / (den * 2 ^ s)) (hwidth : hiddenBit ≤ f ∨ s = 0)
    (hlt : f < 2 * hiddenBit) :
    Rounds (s * hiddenBit + roundHalfEven (num * unitsPerOne) (den * 2 ^ s)) num den := by
  have hD : 0 < den * 2 ^ s := Nat.mul_pos hden (Nat.two_pow_pos s)
  obtain ⟨hlow, hhigh, hodd⟩ := roundHalfEven_spec (num * unitsPerOne) hD
  have hfle := div_le_roundHalfEven (num * unitsPerOne) (den * 2 ^ s)
  have hqle := roundHalfEven_le_succ (num * unitsPerOne) (den * 2 ^ s)
  have hfloor := Nat.div_mul_le_self (num * unitsPerOne) (den * 2 ^ s)
  rw [← hf] at hfle hqle hfloor
  have hvalue : num * (2 * unitsPerOne) = 2 * (num * unitsPerOne) := by ring
  generalize roundHalfEven (num * unitsPerOne) (den * 2 ^ s) = q at *
  have hq : hiddenBit ≤ q ∨ s = 0 := hwidth.imp_left fun h => h.trans hfle
  have hparity := rank_mod_two s q
  have hupper := le_midpoint_above hq (show q ≤ 2 * hiddenBit by omega) den
  have hlower :
      (magnitudeOfRank (s * hiddenBit + q - 1) + magnitudeOfRank (s * hiddenBit + q)) * den ≤
          num * (2 * unitsPerOne) ∧
        (q % 2 = 1 →
          (magnitudeOfRank (s * hiddenBit + q - 1) + magnitudeOfRank (s * hiddenBit + q)) * den ≠
            num * (2 * unitsPerOne)) := by
    rcases Nat.lt_or_eq_of_le hfle with hup | rfl
    · obtain rfl : q = f + 1 := by omega
      have hbelow := midpoint_below hwidth hlt den
      omega
    · -- rounded down: the fraction is not below the magnitude itself
      obtain ⟨hle, hless⟩ := midpoint_le_magnitude (s * hiddenBit + f) den
      have hself : magnitudeOfRank (s * hiddenBit + f) * den = f * (den * 2 ^ s) := by
        rw [magnitudeOfRank_eq hwidth (Nat.le_of_lt hlt)]
        ring
      have hstrict := hless hden
      omega
  refine ⟨hlower.1, by omega, fun hrank => ⟨hlower.2 (by omega), ?_⟩⟩
  have hne := (hodd (by omega)).2
  omega

/-- **The rank that is computed for a fraction is the one it rounds to.** -/
theorem rounds_rankOfRatio (num : Nat) (hden : 0 < den) :
    Rounds (rankOfRatio num den) num den := by
  obtain ⟨hwidth, hlt⟩ := significand_of_log2
    ((num * unitsPerOne / den).log2 - fractionBits) rfl
  rw [Nat.div_div_eq_div_mul] at hwidth hlt
  exact rounds_of_roundHalfEven hden rfl hwidth hlt

/-- What a ratio is rounded to is the rank that is computed. -/
theorem Rounds.rankOfRatio_eq (h : Rounds r num den) (hden : 0 < den) :
    rankOfRatio num den = r :=
  (rounds_rankOfRatio num hden).unique hden h

end DefectCatalog.Binary64
