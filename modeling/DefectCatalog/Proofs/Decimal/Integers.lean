import DefectCatalog.Decimal.Layout
import DefectCatalog.Proofs.Decimal.Rounding

/-!
# Integers as binary64 numbers

A binary64 number has 53 significant bits, so the number of an integer is the
integer rounded to that many (`magnitude_ofInt`).  Rounding takes the nearest
integer of 53 bits (`nearest_rounded`), keeps the order (`rounded_mono`) and
leaves everything up to two to the 53rd as it is (`rounded_of_natAbs_le`).
-/

namespace DefectCatalog

namespace Layout

/-- The text of an integer is its sign and its digits. -/
theorem toString_eq (n : Int) :
    toString n = (if n < 0 then "-" else "") ++ Layout.digits n.natAbs := by
  cases n with
  | ofNat n =>
      have hnonneg : ¬ Int.ofNat n < 0 := Int.not_lt.mpr (Int.natCast_nonneg n)
      rw [if_neg hnonneg, String.empty_append]
      rfl
  | negSucc n =>
      rw [if_pos (Int.negSucc_lt_zero n)]
      rfl

/-- The text of an integer has no point. -/
theorem point_not_mem_toString (n : Int) : '.' ∉ (toString n).toList := by
  rw [toString_eq, String.toList_append, digits, String.toList_ofList, List.mem_append]
  rintro (h | h)
  · split at h
    · exact absurd h (by decide)
    · exact absurd h (by decide)
  · have hdigit := Nat.isDigit_of_mem_toDigits (by decide) (by decide) h
    exact absurd hdigit (by decide)

end Layout

namespace Binary64

/-! ## Rounding a quotient -/

/-- A multiple of the denominator is not rounded. -/
theorem roundHalfEven_mul_self (num : Nat) {den : Nat} (hden : 0 < den) :
    roundHalfEven (num * den) den = num := by
  unfold roundHalfEven
  rw [Nat.mul_div_cancel num hden, Nat.mul_mod_left]
  dsimp only
  rw [if_pos (by omega)]

/-- Expanding a fraction does not change how it is rounded. -/
theorem roundHalfEven_mul_mul (num den : Nat) {k : Nat} (hk : 0 < k) :
    roundHalfEven (num * k) (den * k) = roundHalfEven num den := by
  have hless (a b : Nat) : 2 * (a * k) < b * k ↔ 2 * a < b := by
    rw [← Nat.mul_assoc, Nat.mul_lt_mul_right hk]
  have hmore (a b : Nat) : b * k < 2 * (a * k) ↔ b < 2 * a := by
    rw [← Nat.mul_assoc, Nat.mul_lt_mul_right hk]
  unfold roundHalfEven
  rw [Nat.mul_div_mul_right num den hk, Nat.mul_mod_mul_right]
  simp only [hless, hmore]

/-! ## Fifty-three bits -/

/-- How many bits of an integer do not fit into the significand. -/
def excess (n : Nat) : Nat := n.log2 - fractionBits

/-- A natural number rounded to 53 significant bits, a half going to the even neighbour. -/
def roundedNat (n : Nat) : Nat :=
  roundHalfEven n (2 ^ excess n) * 2 ^ excess n

/-- An integer rounded to 53 significant bits. -/
def rounded (n : Int) : Int :=
  if n < 0 then -(roundedNat n.natAbs : Int) else roundedNat n.natAbs

/-- Units are counted by a power of two. -/
theorem exists_unitsPerOne_eq : ∃ u, unitsPerOne = 2 ^ u ∧ u = 1074 := by
  refine ⟨1074, ?_, rfl⟩
  unfold unitsPerOne
  generalize 1074 = u
  rfl

/-- Nothing is rounded that fits into the significand. -/
theorem roundedNat_of_excess_eq_zero {n : Nat} (h : excess n = 0) : roundedNat n = n := by
  have hround := roundHalfEven_mul_self n Nat.one_pos
  rw [Nat.mul_one] at hround
  rw [roundedNat, h, Nat.pow_zero, hround, Nat.mul_one]

/-- The exponent that is chosen for an integer rounds its excess away. -/
theorem roundHalfEven_mul_two_pow {n s : Nat} (hn : 0 < n)
    (hs : s = (n * unitsPerOne).log2 - fractionBits) :
    roundHalfEven (n * unitsPerOne) (2 ^ s) * 2 ^ s = roundedNat n * unitsPerOne := by
  obtain ⟨u, hunits, hu⟩ := exists_unitsPerOne_eq
  have hlog : (n * 2 ^ u).log2 = n.log2 + u := by
    have hpos : 0 < 2 ^ u := Nat.two_pow_pos u
    rw [Nat.log2_eq_iff (Nat.ne_of_gt (Nat.mul_pos hn hpos)), Nat.add_right_comm, Nat.pow_add,
      Nat.pow_add]
    exact ⟨Nat.mul_le_mul_right _ (Nat.log2_self_le (Nat.ne_of_gt hn)),
      Nat.mul_lt_mul_of_pos_right Nat.lt_log2_self hpos⟩
  rw [hunits, hlog, fractionBits] at hs
  rw [hunits]
  rcases Nat.lt_or_ge 52 n.log2 with hlarge | hsmall
  · obtain rfl : s = excess n + u := by
      rw [excess, fractionBits]
      omega
    rw [roundedNat, Nat.pow_add, roundHalfEven_mul_mul _ _ (Nat.two_pow_pos u), Nat.mul_assoc]
  · -- the exponent is at most that of the unit, so it divides the integer
    obtain ⟨d, rfl⟩ : ∃ d, u = d + s := ⟨u - s, by omega⟩
    have hexcess : excess n = 0 := by
      rw [excess, fractionBits]
      omega
    rw [roundedNat_of_excess_eq_zero hexcess, Nat.pow_add, ← Nat.mul_assoc,
      roundHalfEven_mul_self _ (Nat.two_pow_pos s)]

/-- The number nearest to a natural number is the natural number rounded to 53 bits. -/
theorem magnitudeOfRank_rankOfRatio_one (n : Nat) :
    magnitudeOfRank (rankOfRatio n 1) = roundedNat n * unitsPerOne := by
  rcases Nat.eq_zero_or_pos n with rfl | hn
  · have hrank : rankOfRatio 0 1 = 0 := by simp [rankOfRatio, roundHalfEven]
    rw [hrank, roundedNat_of_excess_eq_zero rfl, Nat.zero_mul]
    rfl
  · unfold rankOfRatio
    dsimp only
    rw [Nat.div_one, Nat.pow_eq, Nat.one_mul]
    obtain ⟨hwidth, hlt⟩ := significand_of_log2 _ (rfl : (n * unitsPerOne).log2 - fractionBits = _)
    have hround := roundHalfEven_mul_two_pow hn rfl
    generalize (n * unitsPerOne).log2 - fractionBits = s at *
    have hfloor := div_le_roundHalfEven (n * unitsPerOne) (2 ^ s)
    have hceil := roundHalfEven_le_succ (n * unitsPerOne) (2 ^ s)
    rw [magnitudeOfRank_eq (hwidth.imp_left fun h => h.trans hfloor) (by omega), hround]

/-! ## Order -/

/-- The interval of a greater fraction is not before that of a smaller one. -/
theorem Rounds.mono {r r' num num' den : Nat} (hden : 0 < den) (h : Rounds r num den)
    (h' : Rounds r' num' den) (hle : num ≤ num') : r ≤ r' := by
  refine Nat.le_of_not_lt fun hlt => ?_
  have hmono := magnitudeOfRank_strictMono.monotone
  have hfirst : magnitudeOfRank r' ≤ magnitudeOfRank (r - 1) := hmono (by omega)
  have hsecond : magnitudeOfRank (r' + 1) ≤ magnitudeOfRank r := hmono hlt
  have hbounds := Nat.mul_le_mul_right den (Nat.add_le_add hfirst hsecond)
  have hvalues := Nat.mul_le_mul_right (2 * unitsPerOne) hle
  have hlower := h.lower_le
  have hupper := h'.le_upper
  -- both fractions are the one midpoint between the intervals
  have hunits : 0 < 2 * unitsPerOne := Nat.mul_pos Nat.two_pos unitsPerOne_pos
  obtain rfl : num = num' := Nat.eq_of_mul_eq_mul_right hunits (by omega)
  exact Nat.ne_of_gt hlt (h.unique hden h')

/-- A larger ratio is not rounded to a smaller number. -/
theorem rankOfRatio_mono {num num' den : Nat} (hden : 0 < den) (h : num ≤ num') :
    rankOfRatio num den ≤ rankOfRatio num' den :=
  (rounds_rankOfRatio num hden).mono hden (rounds_rankOfRatio num' hden) h

/-- Rounding keeps the order of natural numbers. -/
theorem roundedNat_mono {m n : Nat} (h : m ≤ n) : roundedNat m ≤ roundedNat n := by
  have hmagnitude := magnitudeOfRank_strictMono.monotone (rankOfRatio_mono Nat.one_pos h)
  rw [magnitudeOfRank_rankOfRatio_one, magnitudeOfRank_rankOfRatio_one] at hmagnitude
  exact Nat.le_of_mul_le_mul_right hmagnitude unitsPerOne_pos

/-- Up to two to the 53rd, no integer is rounded. -/
theorem roundedNat_of_le {n : Nat} (h : n ≤ 2 ^ 53) : roundedNat n = n := by
  rcases Nat.lt_or_eq_of_le h with hlt | rfl
  · refine roundedNat_of_excess_eq_zero ?_
    rcases Nat.eq_zero_or_pos n with rfl | hn
    · rfl
    · have hlog := (Nat.log2_lt (Nat.ne_of_gt hn)).mpr hlt
      rw [excess, fractionBits]
      omega
  · decide

/-- Rounding does not look at the sign. -/
theorem natAbs_rounded (n : Int) : (rounded n).natAbs = roundedNat n.natAbs := by
  unfold rounded
  split <;> omega

/-- Rounding keeps the sign. -/
theorem rounded_neg_iff (n : Int) : rounded n < 0 ↔ n < 0 := by
  unfold rounded
  split
  · next hneg =>
      have hone : roundedNat 1 ≤ roundedNat n.natAbs := roundedNat_mono (by omega)
      rw [roundedNat_of_le (by decide)] at hone
      omega
  · next hnonneg => omega

/-- Rounding keeps the order of integers. -/
theorem rounded_mono {m n : Int} (h : m ≤ n) : rounded m ≤ rounded n := by
  unfold rounded
  split <;> split
  · have hmono := roundedNat_mono (show n.natAbs ≤ m.natAbs by omega)
    omega
  · omega
  · omega
  · have hmono := roundedNat_mono (show m.natAbs ≤ n.natAbs by omega)
    omega

/-- **Up to two to the 53rd, integers are themselves.** -/
theorem rounded_of_natAbs_le {n : Int} (h : n.natAbs ≤ 2 ^ 53) : rounded n = n := by
  unfold rounded
  rw [roundedNat_of_le h]
  split <;> omega

/-- **The magnitude of an integer's number** is that of the integer rounded to 53 bits. -/
theorem magnitude_ofInt (n : Int) :
    (ofInt n).magnitude = (rounded n).natAbs * unitsPerOne := by
  rw [natAbs_rounded]
  exact magnitudeOfRank_rankOfRatio_one n.natAbs

/-- Integers that are rounded alike are the same number. -/
theorem ofInt_eq_iff {m n : Int} : ofInt m = ofInt n ↔ rounded m = rounded n := by
  constructor
  · intro h
    have hsign : m < 0 ↔ n < 0 := decide_eq_decide.mp (congrArg negative h)
    have hmagnitude := congrArg magnitude h
    rw [magnitude_ofInt, magnitude_ofInt] at hmagnitude
    have hnatAbs := Nat.eq_of_mul_eq_mul_right unitsPerOne_pos hmagnitude
    have hm := rounded_neg_iff m
    have hn := rounded_neg_iff n
    omega
  · intro h
    have hsign : m < 0 ↔ n < 0 := by rw [← rounded_neg_iff, h, rounded_neg_iff]
    have hmagnitude : (ofInt m).magnitude = (ofInt n).magnitude := by
      rw [magnitude_ofInt, magnitude_ofInt, h]
    have hrank := magnitudeOfRank_strictMono.injective hmagnitude
    rw [Binary64.mk.injEq]
    exact ⟨decide_eq_decide.mpr hsign, hrank⟩

/-! ## The nearest integer of fifty-three bits -/

/-- A natural number with at most `b` significant bits. -/
def HasBits (b n : Nat) : Prop :=
  ∃ q k, q < 2 ^ b ∧ n = q * 2 ^ k

/-- A short number times a power of two has few bits. -/
theorem hasBits_mul_two_pow {b q : Nat} (hb : 0 < b) (hq : q ≤ 2 ^ b) (k : Nat) :
    HasBits b (q * 2 ^ k) := by
  rcases Nat.lt_or_eq_of_le hq with hlt | rfl
  · exact ⟨q, k, hlt, rfl⟩
  · exact ⟨1, b + k, Nat.one_lt_two_pow (Nat.ne_of_gt hb), by rw [Nat.one_mul, Nat.pow_add]⟩

/-- `v` is the integer of 53 significant bits nearest to `n`. -/
structure Nearest (n v : Int) : Prop where
  bits : HasBits 53 v.natAbs
  le : ∀ w : Int, HasBits 53 w.natAbs → (n - v).natAbs ≤ (n - w).natAbs
  /-- If another one is as near, the last of the bits is zero. -/
  even : ∀ w : Int, HasBits 53 w.natAbs → w ≠ v → (n - v).natAbs = (n - w).natAbs →
    HasBits 52 v.natAbs

/-- The nearest to the opposite is the opposite of the nearest. -/
theorem Nearest.neg {n v : Int} (h : Nearest n v) : Nearest (-n) (-v) := by
  have hdist (w : Int) : (-n - w).natAbs = (n - -w).natAbs := by omega
  refine ⟨by rw [Int.natAbs_neg]; exact h.bits, fun w hw => ?_, fun w hw hne heq => ?_⟩
  · rw [hdist, hdist, Int.neg_neg]
    exact h.le (-w) (by rwa [Int.natAbs_neg])
  · rw [hdist, hdist, Int.neg_neg] at heq
    rw [Int.natAbs_neg]
    exact h.even (-w) (by rwa [Int.natAbs_neg]) (by omega) heq

/-- No multiple of the denominator is nearer than the one that is rounded to. -/
theorem roundHalfEven_nearest (num : Nat) {den : Nat} (hden : 0 < den) (k : Nat) :
    ((num : Int) - (roundHalfEven num den * den : Nat)).natAbs ≤
        ((num : Int) - (k * den : Nat)).natAbs ∧
      (k ≠ roundHalfEven num den →
        ((num : Int) - (roundHalfEven num den * den : Nat)).natAbs =
          ((num : Int) - (k * den : Nat)).natAbs → roundHalfEven num den % 2 = 0) := by
  obtain ⟨hlow, hhigh, hodd⟩ := roundHalfEven_spec num hden
  rw [Nat.mul_assoc] at hlow hhigh hodd
  generalize roundHalfEven num den = q at *
  rcases Nat.lt_trichotomy k q with hlt | rfl | hlt
  · have hgap : k * den + den ≤ q * den := Nat.succ_mul k den ▸ Nat.mul_le_mul_right den hlt
    omega
  · exact ⟨Nat.le_refl _, fun hne => absurd rfl hne⟩
  · have hgap : q * den + den ≤ k * den := Nat.succ_mul q den ▸ Nat.mul_le_mul_right den hlt
    omega

/-- What is left of a number without its excess bits has 53 bits. -/
theorem roundHalfEven_excess_le (n : Nat) : roundHalfEven n (2 ^ excess n) ≤ 2 ^ 53 := by
  obtain ⟨-, hlt⟩ := significand_of_log2 (excess n) (rfl : _ = n.log2 - fractionBits)
  have hwidth : 2 * hiddenBit = 2 ^ 53 := by decide
  have hceil := roundHalfEven_le_succ n (2 ^ excess n)
  omega

/-- An integer of 53 bits is a multiple of what is rounded away, or it is below all
integers of as many bits as `n`. -/
theorem HasBits.multiple_or_lt {n w : Nat} (hw : HasBits 53 w) :
    (∃ k, w = k * 2 ^ excess n) ∨ w < 2 ^ 52 * 2 ^ excess n ∧ 2 ^ 52 * 2 ^ excess n ≤ n := by
  obtain ⟨q, j, hq, rfl⟩ := hw
  rcases Nat.lt_or_ge j (excess n) with hlt | hge
  · right
    have hlog : n.log2 = 52 + excess n := by
      rw [excess, fractionBits] at hlt ⊢
      omega
    have hn : n ≠ 0 := by
      rintro rfl
      cases hlt
    constructor
    · calc q * 2 ^ j < 2 ^ 53 * 2 ^ j := Nat.mul_lt_mul_of_pos_right hq (Nat.two_pow_pos j)
        _ = 2 ^ 52 * 2 ^ (j + 1) := by rw [Nat.pow_succ 2 j]; omega
        _ ≤ 2 ^ 52 * 2 ^ excess n :=
          Nat.mul_le_mul_left _ (Nat.pow_le_pow_right Nat.two_pos hlt)
    · rw [← Nat.pow_add, ← hlog]
      exact Nat.log2_self_le hn
  · left
    obtain ⟨d, rfl⟩ := Nat.exists_eq_add_of_le hge
    exact ⟨q * 2 ^ d, by rw [Nat.pow_add]; ring⟩

/-- Among the natural numbers of 53 bits none is nearer than the rounded one. -/
theorem roundedNat_nearest {n w : Nat} (hw : HasBits 53 w) :
    ((n : Int) - roundedNat n).natAbs ≤ ((n : Int) - w).natAbs ∧
      (w ≠ roundedNat n → ((n : Int) - roundedNat n).natAbs = ((n : Int) - w).natAbs →
        HasBits 52 (roundedNat n)) := by
  have hden : 0 < 2 ^ excess n := Nat.two_pow_pos _
  have hbound := roundHalfEven_excess_le n
  unfold roundedNat
  rcases hw.multiple_or_lt (n := n) with ⟨k, rfl⟩ | ⟨hlt, hle⟩
  · obtain ⟨hnear, heven⟩ := roundHalfEven_nearest n hden k
    refine ⟨hnear, fun hne heq => ?_⟩
    have hmod := heven (fun h => hne (h ▸ rfl)) heq
    obtain ⟨q, hq⟩ : ∃ q, roundHalfEven n (2 ^ excess n) = q * 2 :=
      ⟨_, (Nat.div_mul_cancel (Nat.dvd_of_mod_eq_zero hmod)).symm⟩
    have hmul : q * 2 * 2 ^ excess n = q * 2 ^ (excess n + 1) := by
      rw [Nat.pow_succ]
      ring
    rw [hq, hmul]
    exact hasBits_mul_two_pow (by decide) (by omega) _
  · -- two to the 52nd is a multiple between it and `n`
    have hnear := (roundHalfEven_nearest n hden (2 ^ 52)).1
    generalize 2 ^ 52 * 2 ^ excess n = between at *
    generalize roundHalfEven n (2 ^ excess n) * 2 ^ excess n = v at *
    omega

/-- A natural number is rounded to a nearest one of 53 bits. -/
theorem nearest_roundedNat (n : Nat) : Nearest n (roundedNat n) := by
  refine ⟨hasBits_mul_two_pow (by decide) (roundHalfEven_excess_le n) _, fun w hw => ?_,
    fun w hw hne heq => ?_⟩
  · have hnear := (roundedNat_nearest (n := n) hw).1
    omega
  · obtain ⟨hnear, heven⟩ := roundedNat_nearest (n := n) hw
    rcases Int.lt_or_le w 0 with hneg | hnonneg
    · -- a negative number is as near only to zero, which is not rounded
      obtain rfl : n = 0 := by omega
      exact ⟨0, 0, by decide, rfl⟩
    · exact heven (by omega) (by omega)

/-- **Rounding takes the nearest integer of 53 bits.** -/
theorem nearest_rounded (n : Int) : Nearest n (rounded n) := by
  unfold rounded
  split
  · next hneg =>
      have hn : -(n.natAbs : Int) = n := by omega
      have hnearest := (nearest_roundedNat n.natAbs).neg
      rwa [hn] at hnearest
  · next hnonneg =>
      have hn : (n.natAbs : Int) = n := by omega
      have hnearest := nearest_roundedNat n.natAbs
      rwa [hn] at hnearest

end Binary64

end DefectCatalog
