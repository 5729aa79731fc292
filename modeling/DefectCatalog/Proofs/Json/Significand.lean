import DefectCatalog.Json.Token
import DefectCatalog.Proofs.Decimal.Scaling

/-!
# Digits that fit into 64 bits

A number keeps the first of its digits, as many as fit into 64 bits, and counts
the others.  The digits it keeps never stand for more than all of them do
(`accumulate_append_le`), so a number that is read is finite
(`fits_of_numberOfParts?`), and numbers up to the last midpoint are all read
(`isSome_numberOfParts?`).
-/

namespace DefectCatalog.Json

/-- A number that JSON text can give: an integer of 64 bits, or a finite binary64 number. -/
def Number.Fits : Number → Prop
  | .integer n => leastInteger ≤ n ∧ n ≤ greatestInteger
  | .real x => x.rank < Binary64.infinityRank

variable {n m : Nat} {ds : List Char}

/-! ## One list of digits -/

theorem ofDigitChars_mono (h : m ≤ n) (ds : List Char) :
    Nat.ofDigitChars 10 ds m ≤ Nat.ofDigitChars 10 ds n := by
  calc Nat.ofDigitChars 10 ds m
      = 10 ^ ds.length * m + Nat.ofDigitChars 10 ds 0 := Nat.ofDigitChars_eq_ofDigitChars_zero
    _ ≤ 10 ^ ds.length * n + Nat.ofDigitChars 10 ds 0 :=
        Nat.add_le_add_right (Nat.mul_le_mul_left _ h) _
    _ = Nat.ofDigitChars 10 ds n := Nat.ofDigitChars_eq_ofDigitChars_zero.symm

theorem mul_pow_le_ofDigitChars (n : Nat) (ds : List Char) :
    n * 10 ^ ds.length ≤ Nat.ofDigitChars 10 ds n := by
  rw [Nat.ofDigitChars_eq_ofDigitChars_zero, Nat.mul_comm]
  exact Nat.le_add_right _ _

/-- What is known of the digits that were kept, with those that are left over. -/
structure Accumulated (n : Nat) (ds : List Char) (kept : Nat) (left : List Char) : Prop where
  word : kept ≤ Decimal.wordLimit
  suffix : left <:+ ds
  le : kept * 10 ^ left.length ≤ Nat.ofDigitChars 10 ds n
  /-- Nothing is left over but for want of room. -/
  full : left ≠ [] → Decimal.wordLimit * 10 ^ left.length ≤ 10 * Nat.ofDigitChars 10 ds n
  /-- Nothing is kept if all is left over. -/
  none_kept : left.length = ds.length → kept = n

theorem accumulated (hn : n ≤ Decimal.wordLimit) (ds : List Char) :
    Accumulated n ds (accumulate n ds).1 (accumulate n ds).2 := by
  induction ds generalizing n with
  | nil => exact ⟨hn, List.suffix_rfl, by simp [accumulate], fun h => absurd rfl h, fun _ => rfl⟩
  | cons c ds ih =>
      by_cases hfits : 10 * n + (c.toNat - 48) ≤ Decimal.wordLimit
      · obtain ⟨hword, hsuffix, hle, hfull, -⟩ := ih hfits
        have hstep : accumulate n (c :: ds) = accumulate (10 * n + (c.toNat - 48)) ds :=
          if_pos hfits
        rw [hstep]
        refine ⟨hword, hsuffix.trans (List.suffix_cons c ds), hle, hfull, fun hlength => ?_⟩
        have hshort := hsuffix.length_le
        rw [List.length_cons] at hlength
        omega
      · have hstop : accumulate n (c :: ds) = (n, c :: ds) := if_neg hfits
        have hnext := mul_pow_le_ofDigitChars (10 * n + (c.toNat - 48)) ds
        rw [hstop]
        refine ⟨hn, List.suffix_rfl, mul_pow_le_ofDigitChars n _, fun _ => ?_, fun _ => rfl⟩
        have hpast := Nat.mul_le_mul_right (10 ^ ds.length) (Nat.le_of_not_le hfits)
        calc Decimal.wordLimit * 10 ^ (c :: ds).length
            = 10 * (Decimal.wordLimit * 10 ^ ds.length) := by
              rw [List.length_cons, Nat.pow_succ]
              ring
          _ ≤ 10 * Nat.ofDigitChars 10 (c :: ds) n :=
              Nat.mul_le_mul_left 10 (hpast.trans hnext)

/-- A number that fits is kept as a whole. -/
theorem accumulate_of_le (h : Nat.ofDigitChars 10 ds n ≤ Decimal.wordLimit) :
    accumulate n ds = (Nat.ofDigitChars 10 ds n, []) := by
  induction ds generalizing n with
  | nil => rfl
  | cons c ds ih =>
      have hnext : 10 * n + (c.toNat - 48) ≤ Nat.ofDigitChars 10 ds (10 * n + (c.toNat - 48)) :=
        (Nat.le_mul_of_pos_right _ (Nat.pow_pos (by decide))).trans (mul_pow_le_ofDigitChars _ ds)
      have hstep : accumulate n (c :: ds) = accumulate (10 * n + (c.toNat - 48)) ds :=
        if_pos (hnext.trans h)
      exact hstep.trans (ih h)

/-! ## Digits before and behind the point -/

variable {whole frac : List Char} {significand digits : Nat} {excess dropped : List Char}

theorem digitsValue_append (whole frac : List Char) :
    digitsValue (whole ++ frac) = Nat.ofDigitChars 10 frac (digitsValue whole) :=
  Nat.ofDigitChars_append 0

/-- **The digits that are kept do not stand for more than all of them.** -/
theorem accumulate_append_le (hwhole : Accumulated 0 whole significand excess)
    (hfrac : Accumulated significand frac digits dropped) :
    digits * 10 ^ (excess.length + dropped.length) ≤ digitsValue (whole ++ frac) := by
  rw [digitsValue_append]
  by_cases hexcess : excess = []
  · have hle := hwhole.le
    rw [hexcess, List.length_nil, Nat.pow_zero, Nat.mul_one] at hle
    rw [hexcess, List.length_nil, Nat.zero_add]
    exact hfrac.le.trans (ofDigitChars_mono hle frac)
  · have hall := mul_pow_le_ofDigitChars (digitsValue whole) frac
    rcases Nat.lt_or_eq_of_le hfrac.suffix.length_le with hkept | hnone
    · -- a digit behind the point takes the place of one that was left over
      have hfull := hwhole.full hexcess
      have hstep : digits * 10 ^ (excess.length + dropped.length) * 10 ≤
          10 * digitsValue whole * 10 ^ frac.length := by
        calc digits * 10 ^ (excess.length + dropped.length) * 10
            = digits * 10 ^ excess.length * 10 ^ (dropped.length + 1) := by
              rw [Nat.pow_add, Nat.pow_succ]
              ring
          _ ≤ Decimal.wordLimit * 10 ^ excess.length * 10 ^ frac.length :=
              Nat.mul_le_mul (Nat.mul_le_mul_right _ hfrac.word)
                (Nat.pow_le_pow_right (by decide) hkept)
          _ ≤ 10 * digitsValue whole * 10 ^ frac.length := Nat.mul_le_mul_right _ hfull
      have hvalue : 10 * digitsValue whole * 10 ^ frac.length =
          digitsValue whole * 10 ^ frac.length * 10 := by ring
      rw [hvalue] at hstep
      exact (Nat.le_of_mul_le_mul_right hstep (by decide)).trans hall
    · rw [hfrac.none_kept hnone, hnone, Nat.pow_add, ← Nat.mul_assoc]
      exact (Nat.mul_le_mul_right _ hwhole.le).trans hall

/-! ## The number -/

variable {negative : Bool} {exponent : Option Int}

/-- A number with a fraction or an exponent is no integer. -/
theorem no_integer_of_parts (h : frac ≠ [] ∨ exponent ≠ none) :
    (frac.isEmpty && exponent.isNone) = false := by
  rcases h with h | h
  · rw [List.isEmpty_eq_false_iff.mpr h, Bool.false_and]
  · rw [Option.isNone_eq_false_iff.mpr (Option.isSome_iff_ne_none.mpr h), Bool.and_false]

/-- With a fraction or an exponent, the digits that are kept are scaled. -/
theorem numberOfParts?_real (h : frac ≠ [] ∨ exponent ≠ none) (negative : Bool)
    (whole : List Char) :
    ∃ significand excess digits dropped, Accumulated 0 whole significand excess ∧
      Accumulated significand frac digits dropped ∧
      numberOfParts? negative whole frac exponent =
        (Binary64.scaled? digits (exponent.getD 0 - frac.length +
          ((excess.length + dropped.length : Nat) : Int))).map
            fun rank => .real ⟨negative, rank⟩ := by
  have hwhole := accumulated (Nat.zero_le _) whole
  have hfrac := accumulated hwhole.word frac
  have hshort := hfrac.suffix.length_le
  refine ⟨_, _, _, _, hwhole, hfrac, ?_⟩
  unfold numberOfParts?
  dsimp only
  rw [no_integer_of_parts h, Bool.false_and, if_neg Bool.false_ne_true]
  congr 2
  omega

/-- Digits that fit are scaled as a whole. -/
theorem numberOfParts?_of_word (h : frac ≠ [] ∨ exponent ≠ none) (negative : Bool)
    (hword : digitsValue (whole ++ frac) ≤ Decimal.wordLimit) :
    numberOfParts? negative whole frac exponent =
      (Binary64.scaled? (digitsValue (whole ++ frac)) (exponent.getD 0 - frac.length)).map
        fun rank => .real ⟨negative, rank⟩ := by
  have hfew : digitsValue whole ≤ digitsValue (whole ++ frac) := by
    rw [digitsValue_append]
    exact (Nat.le_mul_of_pos_right _ (Nat.pow_pos (by decide))).trans (mul_pow_le_ofDigitChars _ _)
  have hwhole : accumulate 0 whole = (digitsValue whole, []) :=
    accumulate_of_le (hfew.trans hword)
  have hfrac : accumulate (digitsValue whole) frac = (digitsValue (whole ++ frac), []) := by
    rw [digitsValue_append] at hword ⊢
    exact accumulate_of_le hword
  unfold numberOfParts?
  rw [hwhole]
  dsimp only
  rw [no_integer_of_parts h, Bool.false_and, if_neg Bool.false_ne_true, hfrac]
  congr 2
  simp

/-- **A number that is read fits.** -/
theorem fits_of_numberOfParts? {x : Number}
    (h : numberOfParts? negative whole frac exponent = some x) : x.Fits := by
  by_cases hparts : frac ≠ [] ∨ exponent ≠ none
  · obtain ⟨_, _, digits, _, -, hfrac, hnumber⟩ := numberOfParts?_real hparts negative whole
    obtain ⟨rank, hrank, rfl⟩ := Option.map_eq_some_iff.mp (hnumber.symm.trans h)
    exact Binary64.lt_of_scaled? hfrac.word hrank
  · have hword := (accumulated (Nat.zero_le _) whole).word
    obtain ⟨rfl, rfl⟩ : frac = [] ∧ exponent = none := by simpa using hparts
    unfold numberOfParts? at h
    generalize accumulate 0 whole = parts at hword h
    obtain ⟨significand, excess⟩ := parts
    dsimp only [accumulate] at hword h
    split at h
    · split at h
      · obtain rfl := Option.some.inj h
        exact ⟨Int.le_trans (by decide) (Int.natCast_nonneg _), Int.ofNat_le.mpr hword⟩
      · split at h
        · next hleast =>
            obtain rfl := Option.some.inj h
            simp only [Bool.and_eq_true, decide_eq_true_eq] at hleast
            have hnonpos := Int.neg_nonpos_of_nonneg (Int.natCast_nonneg significand)
            exact ⟨hleast.2, Int.le_trans hnonpos (by decide)⟩
        · obtain rfl := Option.some.inj h
          exact Binary64.rankOfRatio_lt_of_word hword
    · obtain ⟨rank, hrank, rfl⟩ := Option.map_eq_some_iff.mp h
      exact Binary64.lt_of_scaled? hword hrank

/-- Fewer digits with a greater exponent stand for no more, if the digits leave room for it. -/
theorem num_mul_den_le {all k : Nat} {e : Int} (h : digits * 10 ^ k ≤ all) :
    Scientific.num ⟨digits, e + k⟩ * Scientific.den ⟨all, e⟩ ≤
      Scientific.num ⟨all, e⟩ * Scientific.den ⟨digits, e + k⟩ := by
  simp only [Scientific.num, Scientific.den, Nat.pow_eq]
  by_cases he : e < 0
  · by_cases hk : e + k < 0
    · have hsplit : e.natAbs = k + (e + k).natAbs := by omega
      rw [if_pos he, if_pos he, if_pos hk, if_pos hk, Nat.mul_one, Nat.mul_one, hsplit, Nat.pow_add,
        ← Nat.mul_assoc]
      exact Nat.mul_le_mul_right _ h
    · have hsplit : k = (e + k).natAbs + e.natAbs := by omega
      rw [if_pos he, if_pos he, if_neg hk, if_neg hk, Nat.mul_one, Nat.mul_one, Nat.mul_assoc,
        ← Nat.pow_add, ← hsplit]
      exact h
  · have hk : ¬ e + k < 0 := by omega
    have hsplit : (e + k).natAbs = k + e.natAbs := by omega
    rw [if_neg he, if_neg he, if_neg hk, if_neg hk, Nat.mul_one, Nat.mul_one, hsplit, Nat.pow_add,
      ← Nat.mul_assoc]
    exact Nat.mul_le_mul_right _ h

/-- **A number up to the last midpoint is read.** -/
theorem isSome_numberOfParts? (hparts : frac ≠ [] ∨ exponent ≠ none)
    (h : Scientific.num ⟨digitsValue (whole ++ frac), exponent.getD 0 - frac.length⟩ ≤
      Binary64.lastMidpoint *
        Scientific.den ⟨digitsValue (whole ++ frac), exponent.getD 0 - frac.length⟩) :
    (numberOfParts? negative whole frac exponent).isSome := by
  obtain ⟨_, excess, digits, dropped, hwhole, hfrac, hnumber⟩ :=
    numberOfParts?_real hparts negative whole
  have hkept := num_mul_den_le (e := exponent.getD 0 - frac.length)
    (accumulate_append_le hwhole hfrac)
  rw [hnumber, Option.isSome_map]
  refine Binary64.isSome_scaled? hfrac.word ?_
  generalize (⟨digitsValue (whole ++ frac), exponent.getD 0 - frac.length⟩ : Scientific) = all at *
  generalize (⟨digits, _⟩ : Scientific) = kept at *
  refine Nat.le_of_mul_le_mul_right ?_ all.den_pos
  calc kept.num * all.den
      ≤ all.num * kept.den := hkept
    _ ≤ Binary64.lastMidpoint * all.den * kept.den := Nat.mul_le_mul_right _ h
    _ = Binary64.lastMidpoint * kept.den * all.den := by ring

end DefectCatalog.Json
