import DefectCatalog.Document
import DefectCatalog.Proofs.Decimal.Integers
import DefectCatalog.Proofs.Sorting.Kinds

/-!
# Integers as field values

A field that holds an integer is compared and shown as a binary64 number.  So
records are ordered by their integers rounded to 53 bits, and an integer is shown
in full as long as it has at most fifteen digits (`treatsIntegers_of_holdsInteger`).
-/

namespace DefectCatalog

namespace Binary64

/-- **The value of an integer's number** is the integer rounded to 53 bits. -/
theorem signedMagnitude_ofInt (n : Int) :
    (ofInt n).signedMagnitude = rounded n * (unitsPerOne : Int) := by
  have hneg := rounded_neg_iff n
  unfold signedMagnitude
  rw [magnitude_ofInt, Int.natCast_mul]
  split
  · next h =>
      have hsign : n < 0 := of_decide_eq_true h
      have habs : ((rounded n).natAbs : Int) = -rounded n := by omega
      rw [habs, Int.neg_mul, Int.neg_neg]
  · next h =>
      have hsign : ¬ n < 0 := fun hlt => h (decide_eq_true hlt)
      have habs : ((rounded n).natAbs : Int) = rounded n := by omega
      rw [habs]

/-- The number of an integer goes before another as the rounded integers do. -/
theorem below_ofInt_iff {m n : Int} : (ofInt m).Below (ofInt n) ↔ rounded m < rounded n := by
  have hunits : (0 : Int) < unitsPerOne := Int.natCast_pos.mpr unitsPerOne_pos
  rw [Below, signedMagnitude_ofInt, signedMagnitude_ofInt, Int.mul_lt_mul_right hunits]
  refine ⟨fun h => h.resolve_right ?_, Or.inl⟩
  rintro ⟨heq, hm, hn⟩
  have hrounded : rounded m = rounded n := Int.eq_of_mul_eq_mul_right (Int.ne_of_gt hunits) heq
  have hmneg : rounded m < 0 := (rounded_neg_iff m).mpr (of_decide_eq_true hm)
  exact hn (decide_eq_true ((rounded_neg_iff n).mp (hrounded ▸ hmneg)))

theorem isIntegral_ofInt (n : Int) : (ofInt n).isIntegral = true := by
  rw [isIntegral, magnitude_ofInt, Nat.mul_mod_left]
  rfl

theorem truncate_ofInt (n : Int) : (ofInt n).truncate = rounded n := by
  have hneg := rounded_neg_iff n
  unfold truncate
  rw [magnitude_ofInt, ← Int.natCast_ediv, Nat.mul_div_cancel _ unitsPerOne_pos]
  dsimp only
  split
  · next h =>
      have hsign : n < 0 := of_decide_eq_true h
      omega
  · next h =>
      have hsign : ¬ n < 0 := fun hlt => h (decide_eq_true hlt)
      omega

/-- With two places, an integer's number is the rounded integer and two zeros. -/
theorem twoPlaces_ofInt (n : Int) : (ofInt n).twoPlaces = toString (rounded n) ++ ".00" := by
  have hhundredths : roundHalfEven ((ofInt n).magnitude * 100) unitsPerOne =
      (rounded n).natAbs * 100 := by
    rw [magnitude_ofInt, Nat.mul_right_comm, roundHalfEven_mul_self _ unitsPerOne_pos]
  have hsign : (ofInt n).negative = decide (rounded n < 0) :=
    decide_eq_decide.mpr (rounded_neg_iff n).symm
  have hplaces : "." ++ (Layout.zeros (2 - (Nat.toDigits 10 0).length) ++
      String.ofList (Nat.toDigits 10 0)) = ".00" := by decide
  unfold twoPlaces
  dsimp only
  rw [hhundredths, Nat.mul_div_cancel _ (by decide), Nat.mul_mod_left, hsign, Layout.toString_eq]
  simp only [String.append_assoc, hplaces, decide_eq_true_eq]

/-- Below a bound that is not rounded, rounding does not lead past it. -/
theorem natAbs_rounded_lt_iff {n : Int} {bound : Nat} (h : bound ≤ 2 ^ 53) :
    (rounded n).natAbs < bound ↔ n.natAbs < bound := by
  rw [natAbs_rounded]
  constructor
  · intro hlt
    refine Nat.lt_of_not_le fun hle => ?_
    have hmono := roundedNat_mono hle
    rw [roundedNat_of_le h] at hmono
    omega
  · intro hlt
    rw [roundedNat_of_le (by omega)]
    exact hlt

end Binary64

namespace Datum

open Binary64

variable {m n : Int}

/-- **Integers are compared rounded.** -/
theorem compare_ofInt (m n : Int) :
    (number (ofInt m)).compare (number (ofInt n)) = Ord.compare (rounded m) (rounded n) := by
  have hlt {m n : Int} : (number (ofInt m)).compare (number (ofInt n)) = .lt ↔
      rounded m < rounded n :=
    compare_eq_lt_iff.trans (below_number_iff.trans below_ofInt_iff)
  rcases Int.lt_trichotomy (rounded m) (rounded n) with h | h | h
  · rw [hlt.mpr h, Std.compare_eq_lt.mpr h]
  · rw [Std.compare_eq_iff_eq.mpr h, compare_eq_eq_iff, ofInt_eq_iff.mpr h]
  · rw [compare_swap, hlt.mpr h, Std.compare_eq_gt.mpr h]
    rfl

/-- An integer of at most fifteen digits is shown in full. -/
theorem display_ofInt_of_lt (h : n.natAbs < 10 ^ 15) :
    (number (ofInt n)).display = toString n := by
  have hmagnitude : (ofInt n).magnitude < plainLimit * unitsPerOne := by
    rw [magnitude_ofInt, Nat.mul_lt_mul_right unitsPerOne_pos]
    exact (natAbs_rounded_lt_iff (by decide)).mpr h
  have hself : rounded n = n := rounded_of_natAbs_le (by omega)
  unfold display
  dsimp only
  rw [isIntegral_ofInt, decide_eq_true hmagnitude, truncate_ofInt, hself]
  rfl

/-- A longer one is shown rounded and with two places. -/
theorem display_ofInt_of_le (h : 10 ^ 15 ≤ n.natAbs) :
    (number (ofInt n)).display = toString (rounded n) ++ ".00" := by
  have hmagnitude : ¬ (ofInt n).magnitude < plainLimit * unitsPerOne := by
    rw [magnitude_ofInt, Nat.mul_lt_mul_right unitsPerOne_pos]
    exact mt (natAbs_rounded_lt_iff (by decide)).mp (Nat.not_lt.mpr h)
  unfold display
  dsimp only
  rw [decide_eq_false hmagnitude, Bool.and_false, twoPlaces_ofInt]
  rfl

end Datum

namespace Record

/-- The JSON value that a path names. -/
def value? (r : Record) (path : String) : Option Json.Value :=
  if path = "project" then some (.string r.project)
  else if path = "commit" then some (.string r.commit)
  else if path = "patch" then some (.string r.patch)
  else
    match Text.parts '.' path with
    | [] => none
    | first :: rest => (r.fields.get? first).bind fun v => descend v rest

/-- A field is the value that its path names, as far as it can be compared. -/
theorem field_eq (r : Record) (path : String) :
    r.field path = ((r.value? path).map Datum.ofJson).getD .missing := by
  unfold field value?
  split_ifs
  · rfl
  · rfl
  · rfl
  · cases Text.parts '.' path with
    | nil => rfl
    | cons first rest =>
        dsimp only
        cases r.fields.get? first with
        | none => rfl
        | some v =>
            rw [Option.bind_some]
            dsimp only
            cases descend v rest <;> rfl

/-- A path names the integer `n`. -/
def HoldsInteger (r : Record) (path : String) (n : Int) : Prop :=
  r.value? path = some (.number (.integer n))

theorem HoldsInteger.field_eq {r : Record} {path : String} {n : Int}
    (h : r.HoldsInteger path n) : r.field path = .number (Binary64.ofInt n) := by
  rw [Record.field_eq, h]
  rfl

end Record

namespace Sorting

open Binary64

/-- What becomes of the integers `m` and `n` that two records hold in a field. -/
structure TreatsIntegers (a b : Record) (field : String) (m n : Int) : Prop where
  /-- They are rounded to the nearest integers of 53 bits. -/
  nearest : Nearest m (rounded m) ∧ Nearest n (rounded n)
  /-- A sorting that goes up by the field puts the records in the order of the rounded ones. -/
  compare_eq : ∀ rest, Sorting.compare ⟨field :: rest, false⟩ a b =
    Ord.compare (rounded m) (rounded n)
  /-- That is never the opposite of the order of the integers, -/
  not_opposite : ∀ rest, m ≤ n → Sorting.compare ⟨field :: rest, false⟩ a b ≠ .gt
  /-- and it is their order exactly if rounding keeps different ones apart, -/
  compare_eq_iff : ∀ rest, Sorting.compare ⟨field :: rest, false⟩ a b = Ord.compare m n ↔
    (rounded m = rounded n → m = n)
  /-- as it does up to two to the 53rd. -/
  compare_eq_of_le : m.natAbs ≤ 2 ^ 53 → n.natAbs ≤ 2 ^ 53 →
    ∀ rest, Sorting.compare ⟨field :: rest, false⟩ a b = Ord.compare m n
  /-- An integer of at most fifteen digits is shown in full, a longer one rounded and
  with two places. -/
  display_eq : (a.field field).display =
    if m.natAbs < 10 ^ 15 then toString m else toString (rounded m) ++ ".00"
  /-- So exactly those of at most fifteen digits are shown as they are. -/
  display_eq_iff : (a.field field).display = toString m ↔ m.natAbs < 10 ^ 15

/-- Rounding keeps the order of two integers exactly if it keeps different ones apart. -/
theorem compare_rounded_eq_iff (m n : Int) :
    Ord.compare (rounded m) (rounded n) = Ord.compare m n ↔ (rounded m = rounded n → m = n) := by
  constructor
  · intro h heq
    rw [Std.compare_eq_iff_eq.mpr heq, eq_comm, Std.compare_eq_iff_eq] at h
    exact h
  · intro h
    rcases Int.lt_trichotomy m n with hlt | rfl | hlt
    · have hle := rounded_mono (Int.le_of_lt hlt)
      have hne : rounded m ≠ rounded n := fun heq => Int.ne_of_lt hlt (h heq)
      rw [Std.compare_eq_lt.mpr hlt, Std.compare_eq_lt.mpr (by omega)]
    · rw [Std.compare_eq_iff_eq.mpr rfl, Std.compare_eq_iff_eq.mpr rfl]
    · have hle := rounded_mono (Int.le_of_lt hlt)
      have hne : rounded m ≠ rounded n := fun heq => Int.ne_of_gt hlt (h heq)
      rw [Std.compare_eq_gt.mpr hlt, Std.compare_eq_gt.mpr (by omega)]

/-- **Integers are compared and shown as binary64 numbers.**  Records follow each
other as their integers rounded to 53 bits, and an integer of more than fifteen
digits is shown rounded. -/
theorem treatsIntegers_of_holdsInteger {a b : Record} {field : String} {m n : Int}
    (ha : a.HoldsInteger field m) (hb : b.HoldsInteger field n) :
    TreatsIntegers a b field m n := by
  have hcompare (rest : List String) : Sorting.compare ⟨field :: rest, false⟩ a b =
      Ord.compare (rounded m) (rounded n) := by
    rw [← Datum.compare_ofInt, ← ha.field_eq, ← hb.field_eq]
    rfl
  have hdisplay : (a.field field).display =
      if m.natAbs < 10 ^ 15 then toString m else toString (rounded m) ++ ".00" := by
    rw [ha.field_eq]
    split
    · next hlt => exact Datum.display_ofInt_of_lt hlt
    · next hge => exact Datum.display_ofInt_of_le (Nat.le_of_not_lt hge)
  refine ⟨⟨nearest_rounded m, nearest_rounded n⟩, hcompare, ?_, ?_, ?_, hdisplay, ?_⟩
  · intro rest hle hgt
    rw [hcompare, Std.compare_eq_gt] at hgt
    exact Int.not_lt.mpr (rounded_mono hle) hgt
  · intro rest
    rw [hcompare]
    exact compare_rounded_eq_iff m n
  · intro hm hn rest
    rw [hcompare, rounded_of_natAbs_le hm, rounded_of_natAbs_le hn]
  · rw [hdisplay]
    refine ⟨fun heq => ?_, fun hlt => if_pos hlt⟩
    by_contra hge
    rw [if_neg hge] at heq
    -- only the rounded text has a point
    refine Layout.point_not_mem_toString m (heq ▸ ?_)
    rw [String.toList_append]
    exact List.mem_append_right _ (by decide)

/-- Two bugs with an integer of sixteen digits in a nested object. -/
def nestedSize (commit : String) (n : Int) : Record :=
  (Record.new "A" commit).setField "metrics" (.object [("size", .number (.integer n))])

/-- Two to the 53rd and one more goes before three more, but is shown without the one. -/
theorem treatsIntegers_of_nestedSize :
    (nestedSize "1" 9007199254740993).HoldsInteger "metrics.size" 9007199254740993 ∧
      (nestedSize "2" 9007199254740995).HoldsInteger "metrics.size" 9007199254740995 ∧
      rounded 9007199254740993 = 9007199254740992 ∧ rounded 9007199254740995 = 9007199254740996 ∧
      TreatsIntegers (nestedSize "1" 9007199254740993) (nestedSize "2" 9007199254740995)
        "metrics.size" 9007199254740993 9007199254740995 :=
  ⟨rfl, rfl, by decide, by decide, treatsIntegers_of_holdsInteger rfl rfl⟩

/-- Two bugs whose sizes are neighbours above two to the 53rd. -/
def neighbouringSizes : String :=
  "[\x7b\"project\":\"A\",\"commit\":1,\"size\":9007199254740992\x7d," ++
    "\x7b\"project\":\"A\",\"commit\":2,\"size\":9007199254740993\x7d]"

/-- **Not all integers keep their order and their text.**  Two neighbours of sixteen
digits compare equal, and neither is shown as it is. -/
theorem neighbouringSizes_compare_equal :
    ∃ a b, readRecords neighbouringSizes = .ok [a, b] ∧
      a.HoldsInteger "size" 9007199254740992 ∧ b.HoldsInteger "size" 9007199254740993 ∧
      Sorting.compare ⟨["size"], false⟩ a b = .eq ∧
      Ord.compare (9007199254740992 : Int) 9007199254740993 = .lt ∧
      (a.field "size").display = "9007199254740992.00" ∧
      (b.field "size").display = "9007199254740992.00" := by
  refine ⟨(Record.new "A" "1").setField "size" (.number (.integer 9007199254740992)),
    (Record.new "A" "2").setField "size" (.number (.integer 9007199254740993)),
    rfl, rfl, rfl, ?_, by decide, ?_, ?_⟩
  · decide +kernel
  · decide +kernel
  · decide +kernel

end Sorting

end DefectCatalog
