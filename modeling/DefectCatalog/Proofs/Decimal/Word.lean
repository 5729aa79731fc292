import DefectCatalog.Decimal.Word

/-!
# Reading numbers of 64 bits

The digits of a number of 64 bits read back as the number, and no greater number
is read.
-/

namespace DefectCatalog.Decimal

theorem all_isDigit_toDigits (n : Nat) : (Nat.toDigits 10 n).all Char.isDigit :=
  List.all_eq_true.mpr fun _ hc => Nat.isDigit_of_mem_toDigits (by decide) (by decide) hc

/-- The digits of a number of at most 64 bits read back as the number. -/
theorem word?_toDigits {n : Nat} (h : n ≤ wordLimit) : word? (Nat.toDigits 10 n) = some n := by
  have hne : Nat.toDigits 10 n ≠ [] := Nat.toDigits_ne_nil
  have hall := all_isDigit_toDigits n
  have hvalue : (Nat.toDigits 10 n).foldl (fun n c => 10 * n + (c.toNat - 48)) 0 = n :=
    Nat.ofDigitChars_toDigits (by decide) (by decide)
  unfold word?
  split
  next rest heq =>
    -- a sign is no digit
    rw [heq] at hall
    simp at hall
  next =>
    simp [hne, hall, hvalue, h]

theorem le_of_word? {s : List Char} {n : Nat} (h : word? s = some n) : n ≤ wordLimit := by
  simp only [word?, Option.ite_none_left_eq_some, Option.ite_none_right_eq_some] at h
  obtain ⟨-, hle, heq⟩ := h
  exact Option.some.inj heq ▸ hle

end DefectCatalog.Decimal
