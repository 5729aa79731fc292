import DefectCatalog.Sorting

/-!
# The order of records

Comparing field values is a total preorder: within a kind the values are
compared, and kinds follow each other by rank.  A sorting compares records by
one field of theirs, forwards or backwards, so it is a total preorder too; the
instances below are what sorting and searching rest on.
-/

namespace DefectCatalog

/-- Field values of different kinds are compared by rank. -/
theorem Datum.compare_of_rank_ne {a b : Datum} (h : a.rank ≠ b.rank) :
    a.compare b = Ord.compare a.rank b.rank := by
  cases a <;> cases b <;> first | rfl | exact absurd rfl h

/-- A value that compares below or equal has no higher rank. -/
theorem Datum.rank_le_of_isLE {a b : Datum} (h : (a.compare b).isLE) :
    a.rank ≤ b.rank := by
  by_cases hr : a.rank = b.rank
  · exact Nat.le_of_eq hr
  · rw [compare_of_rank_ne hr] at h
    exact Nat.isLE_compare.mp h

/-- A value of lower rank compares below. -/
theorem Datum.isLE_of_rank_lt {a b : Datum} (h : a.rank < b.rank) :
    (a.compare b).isLE := by
  rw [compare_of_rank_ne (Nat.ne_of_lt h)]
  exact Nat.isLE_compare.mpr (Nat.le_of_lt h)

/-- Numbers are ordered as the keys of their total order are. -/
instance Binary64.transCmp : Std.TransCmp Binary64.totalCompare :=
  inferInstanceAs (Std.TransCmp (compareOn Binary64.totalKey))

/-- Exchanging two field values reverses their comparison. -/
theorem Datum.compare_swap (a b : Datum) : a.compare b = (b.compare a).swap := by
  by_cases hr : a.rank = b.rank
  · cases a <;> cases b <;> simp [rank] at hr
    case bool.bool => exact Std.OrientedOrd.eq_swap
    case number.number => exact Std.OrientedOrd.eq_swap
    case text.text => exact Std.OrientedOrd.eq_swap
    case missing.missing => rfl
  · rw [compare_of_rank_ne hr, compare_of_rank_ne (Ne.symm hr)]
    exact Std.OrientedOrd.eq_swap

/-- Field values form a total preorder.  Values of different ranks are settled
by the ranks, so only values of one kind need the order of that kind. -/
instance Datum.transCmp : Std.TransCmp Datum.compare where
  eq_swap := compare_swap _ _
  isLE_trans {a b c} hab hbc := by
    have hra := rank_le_of_isLE hab
    have hrb := rank_le_of_isLE hbc
    by_cases hr : a.rank < c.rank
    · exact isLE_of_rank_lt hr
    · have hab' : a.rank = b.rank := by omega
      have hbc' : b.rank = c.rank := by omega
      cases a <;> cases b <;> simp [rank] at hab' <;> cases c <;> simp [rank] at hbc'
      case bool.bool.bool => exact Std.TransOrd.isLE_trans (α := Bool) hab hbc
      case number.number.number => exact Binary64.transCmp.isLE_trans hab hbc
      case text.text.text => exact Std.TransOrd.isLE_trans (α := String) hab hbc
      case missing.missing.missing => rfl

namespace Sorting

/-- Exchanging two records reverses their comparison. -/
theorem compare_swap (s : Sorting) (a b : Record) :
    s.compare a b = (s.compare b a).swap := by
  unfold compare
  split
  · rfl
  · rw [Datum.compare_swap (a.field _)]
    split <;> rfl

/-- **Records form a total preorder** under every sorting, with any field list
and in either direction. -/
instance transCmp (s : Sorting) : Std.TransCmp s.compare where
  eq_swap := s.compare_swap _ _
  isLE_trans {a b c} hab hbc := by
    unfold compare at hab hbc ⊢
    cases hp : s.primary? with
    | none => rfl
    | some field =>
        simp only [hp] at hab hbc ⊢
        cases hr : s.reverse with
        | false =>
            simp only [hr, Bool.false_eq_true, if_false] at hab hbc ⊢
            exact Std.TransCmp.isLE_trans hab hbc
        | true =>
            -- backwards, `a ≤ b ≤ c` is `c ≤ b ≤ a` of the field values
            simp only [hr, if_true, ← Datum.compare_swap] at hab hbc ⊢
            exact Std.TransCmp.isLE_trans hbc hab

/-- Of two records one compares below or equal to the other. -/
theorem isLE_total (s : Sorting) (a b : Record) :
    (s.compare a b).isLE || (s.compare b a).isLE := by
  rw [s.compare_swap a b]
  cases s.compare b a <;> rfl

end Sorting

end DefectCatalog
