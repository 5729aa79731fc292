import DefectCatalog.Proofs.Decimal.Rounding
import DefectCatalog.Proofs.Sorting.Stability
import DefectCatalog.Proofs.Text.ByteOrder

/-!
# What records are ordered by

`Datum.Below` says when a field value goes before another, without comparing:
kinds follow each other, and within a kind there are the truth values, the
numbers by their value and the texts by their bytes.  Comparing field values
decides it (`Datum.compare_eq_lt_iff`), and only equal values compare equal.
`orders_compare` puts this together with the laws of the order: every
sorting compares records by its first field, in its direction, and is a total
preorder.
-/

namespace DefectCatalog

namespace Binary64

variable {x y : Binary64}

/-- The value of a number, in units of `1 / unitsPerOne`; that of both zeros is zero. -/
def signedMagnitude (x : Binary64) : Int :=
  if x.negative then -(x.magnitude : Int) else x.magnitude

/-- One number goes before another: its value is less, or it is the negative one
of the two zeros. -/
def Below (x y : Binary64) : Prop :=
  x.signedMagnitude < y.signedMagnitude ∨
    x.signedMagnitude = y.signedMagnitude ∧ x.negative ∧ ¬ y.negative

theorem magnitude_lt_iff : x.magnitude < y.magnitude ↔ x.rank < y.rank :=
  magnitudeOfRank_strictMono.lt_iff_lt

/-- The keys of the total order are ordered as the values, with the zeros apart. -/
theorem totalKey_lt_iff : x.totalKey < y.totalKey ↔ x.Below y := by
  have hxy : x.magnitude < y.magnitude ↔ x.rank < y.rank := magnitude_lt_iff
  have hyx : y.magnitude < x.magnitude ↔ y.rank < x.rank := magnitude_lt_iff
  unfold Below totalKey signedMagnitude
  cases x.negative <;> cases y.negative
  case false.false => simp [← hxy]
  case false.true => simp; omega
  case true.false => simp; omega
  case true.true => simp [← hyx]

/-- A number is known by its key. -/
theorem totalKey_inj : x.totalKey = y.totalKey ↔ x = y := by
  refine ⟨fun h => ?_, congrArg totalKey⟩
  obtain ⟨xn, xr⟩ := x
  obtain ⟨yn, yr⟩ := y
  unfold totalKey at h
  cases xn <;> cases yn <;> simp at h ⊢ <;> omega

end Binary64

namespace Datum

/-- A field value goes before another. -/
inductive Below : Datum → Datum → Prop
  | bool : Below (.bool false) (.bool true)
  | number {x y : Binary64} (h : x.Below y) : Below (.number x) (.number y)
  | text {s t : String} (h : Text.bytes s < Text.bytes t) : Below (.text s) (.text t)
  | bool_number (b : Bool) (x : Binary64) : Below (.bool b) (.number x)
  | bool_text (b : Bool) (s : String) : Below (.bool b) (.text s)
  | bool_missing (b : Bool) : Below (.bool b) .missing
  | number_text (x : Binary64) (s : String) : Below (.number x) (.text s)
  | number_missing (x : Binary64) : Below (.number x) .missing
  | text_missing (s : String) : Below (.text s) .missing

theorem below_number_iff {x y : Binary64} : (number x).Below (number y) ↔ x.Below y :=
  ⟨fun | .number h => h, .number⟩

theorem below_text_iff {s t : String} :
    (text s).Below (text t) ↔ Text.bytes s < Text.bytes t :=
  ⟨fun | .text h => h, .text⟩

/-- Values of different kinds go before each other by rank. -/
theorem below_iff_of_rank_ne {a b : Datum} (h : a.rank ≠ b.rank) :
    a.Below b ↔ a.rank < b.rank := by
  cases a <;> cases b <;> simp [rank] at h ⊢ <;> first | constructor | nofun

/-- **Comparing decides what goes before.** -/
theorem compare_eq_lt_iff {a b : Datum} : a.compare b = .lt ↔ a.Below b := by
  by_cases hr : a.rank = b.rank
  · cases a <;> cases b <;> simp [rank] at hr
    case bool.bool a b =>
      have hbool : Ord.compare a b = .lt ↔ a = false ∧ b = true := by
        cases a <;> cases b <;> decide
      refine hbool.trans ⟨?_, ?_⟩
      · rintro ⟨rfl, rfl⟩
        exact .bool
      · rintro ⟨⟩
        exact ⟨rfl, rfl⟩
    case number.number x y =>
      exact Std.compare_eq_lt.trans (Binary64.totalKey_lt_iff.trans below_number_iff.symm)
    case text.text s t =>
      have htext : Ord.compare s t = .lt ↔ s < t := compareOfLessAndEq_eq_lt
      exact htext.trans ((Text.lt_iff_bytes_lt s t).trans below_text_iff.symm)
    case missing.missing => exact iff_of_false nofun nofun
  · rw [compare_of_rank_ne hr, below_iff_of_rank_ne hr]
    exact Nat.compare_eq_lt

/-- Only equal field values compare equal. -/
theorem compare_eq_eq_iff {a b : Datum} : a.compare b = .eq ↔ a = b := by
  by_cases hr : a.rank = b.rank
  · cases a <;> cases b <;> simp [rank] at hr
    case bool.bool a b => exact Std.compare_eq_iff_eq.trans (bool.injEq a b).to_iff.symm
    case number.number x y =>
      have hkey : x.totalCompare y = .eq ↔ x.totalKey = y.totalKey := Std.compare_eq_iff_eq
      exact hkey.trans (Binary64.totalKey_inj.trans (number.injEq x y).to_iff.symm)
    case text.text s t => exact Std.compare_eq_iff_eq.trans (text.injEq s t).to_iff.symm
    case missing.missing => exact iff_of_true rfl rfl
  · have hne : a ≠ b := fun h => hr (congrArg rank h)
    rw [compare_of_rank_ne hr, iff_false_right hne]
    exact fun h => hr (Nat.compare_eq_eq.mp h)

end Datum

/-- The laws of a total preorder, for a comparison. -/
structure TotalPreorder {α : Type} (cmp : α → α → Ordering) : Prop where
  self : ∀ a, cmp a a = .eq
  swap : ∀ a b, cmp b a = (cmp a b).swap
  trans : ∀ a b c, cmp a b ≠ .gt → cmp b c ≠ .gt → cmp a c ≠ .gt
  eq_trans : ∀ a b c, cmp a b = .eq → cmp b c = .eq → cmp a c = .eq

/-- A transitive comparison is a total preorder. -/
theorem totalPreorder_of_transCmp {α : Type} (cmp : α → α → Ordering) [Std.TransCmp cmp] :
    TotalPreorder cmp where
  self _ := Std.ReflCmp.compare_self
  swap _ _ := Std.OrientedCmp.eq_swap
  trans _ _ _ hab hbc :=
    Ordering.ne_gt_iff_isLE.mpr
      (Std.TransCmp.isLE_trans (Ordering.ne_gt_iff_isLE.mp hab) (Ordering.ne_gt_iff_isLE.mp hbc))
  eq_trans _ _ _ := Std.TransCmp.eq_trans

namespace Sorting

/-- What a sorting makes of records. -/
structure Orders (s : Sorting) : Prop where
  /-- Records are in a total preorder. -/
  preorder : TotalPreorder s.compare
  /-- Sorting keeps the records and puts them in this order. -/
  sorted : ∀ records, (s.sort records).Perm records ∧
    (s.sort records).Pairwise fun a b => s.compare a b ≠ .gt
  /-- Forwards, the first field decides: what goes before compares below, and only
  the same values compare equal. -/
  forwards : ∀ field rest, s.fields = field :: rest → s.reverse = false → ∀ a b,
    (s.compare a b = .lt ↔ (a.field field).Below (b.field field)) ∧
      (s.compare a b = .eq ↔ a.field field = b.field field)
  /-- Without fields all records compare equal. -/
  neutral : s.fields = [] → ∀ a b, s.compare a b = .eq
  /-- Backwards, every result is inverted. -/
  backwards : ∀ a b, { s with reverse := true }.compare a b =
    ({ s with reverse := false }.compare a b).swap

/-- **Every sorting orders records** by the kind and value of its first field,
forwards or backwards, in a total preorder. -/
theorem orders_compare (s : Sorting) : s.Orders where
  preorder := totalPreorder_of_transCmp s.compare
  sorted records := by
    refine ⟨s.sortBy_perm id records, ?_⟩
    exact (s.pairwise_isLE_sortBy id records).imp Ordering.ne_gt_iff_isLE.mpr
  forwards field rest hfields hforwards a b := by
    have hcompare : s.compare a b = (a.field field).compare (b.field field) := by
      simp [compare, primary?, hfields, hforwards]
    rw [hcompare]
    exact ⟨Datum.compare_eq_lt_iff, Datum.compare_eq_eq_iff⟩
  neutral hfields a b := by
    simp [compare, primary?, hfields]
  backwards a b := by
    unfold compare primary?
    dsimp only
    split <;> rfl

end Sorting

end DefectCatalog
