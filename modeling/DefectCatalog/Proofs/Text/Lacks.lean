import DefectCatalog.Proofs.Text.Splitting
import DefectCatalog.Text.Case
import DefectCatalog.Text.Width

/-!
# Characters that a text does without

Putting texts together, padding, cutting and trimming bring no character into a text that
is neither a space nor a point, and capital letters are no control characters
(`Lacks.upper`).  So a text that is made of others holds a line feed or an escape
character only if one of these does.
-/

namespace DefectCatalog.Text

variable {k : Char} {s t : String}

/-- Whether a text does without a character. -/
def Lacks (k : Char) (s : String) : Prop :=
  k ∉ s.toList

instance : DecidablePred (Lacks k) := fun s => inferInstanceAs (Decidable (k ∉ s.toList))

/-- Whether `k` is a control character of ASCII, other than the null character. -/
def IsAsciiControl (k : Char) : Prop :=
  0 < k.toNat ∧ k.toNat < 0x20

instance : DecidablePred IsAsciiControl := fun k =>
  inferInstanceAs (Decidable (0 < k.toNat ∧ k.toNat < 0x20))

/-- Whether a text holds no control character of ASCII. -/
def isPrinted (s : String) : Bool :=
  s.toList.all fun c => 0x20 ≤ c.toNat

/-- A text is printed if it has no control character of ASCII. -/
theorem isPrinted_iff : isPrinted s ↔ ∀ c ∈ s.toList, 0x20 ≤ c.toNat := by
  simp [isPrinted]

/-- Printed texts lack every control character of ASCII. -/
theorem IsAsciiControl.lacks (hk : IsAsciiControl k) (h : isPrinted s) : Lacks k s :=
  fun hmem => absurd hk.2 (Nat.not_lt.mpr (isPrinted_iff.mp h k hmem))

/-- A control character is none that is printed. -/
theorem IsAsciiControl.ne (hk : IsAsciiControl k) {c : Char} (hc : 0x20 ≤ c.toNat) : k ≠ c :=
  fun h => absurd hk.2 (Nat.not_lt.mpr (h ▸ hc))

/-! ## Texts put together -/

/-- Two texts lack what both of them lack. -/
@[simp]
theorem lacks_append : Lacks k (s ++ t) ↔ Lacks k s ∧ Lacks k t := by
  simp [Lacks]

@[simp]
theorem lacks_ofList {s : List Char} : Lacks k (String.ofList s) ↔ k ∉ s := by
  rw [Lacks, String.toList_ofList]

/-- Joined texts lack what all of them lack. -/
theorem lacks_join {ss : List String} : Lacks k (String.join ss) ↔ ∀ s ∈ ss, Lacks k s := by
  simp [Lacks, String.toList_join]

/-- Between the texts there is only the separator. -/
theorem lacks_joined {separator : String} (hsep : Lacks k separator) {ss : List String} :
    Lacks k (joined separator ss) ↔ ∀ s ∈ ss, Lacks k s := by
  induction ss with
  | nil => simp [joined, Lacks]
  | cons s ss ih =>
      cases ss with
      | nil => simp [joined]
      | cons t ss =>
          rw [joined, String.intercalate_cons_cons, lacks_append, lacks_append, ← joined, ih,
            List.forall_mem_cons]
          simp [hsep]

/-- A character repeated is that character. -/
theorem lacks_repeated {c : Char} (hc : k ≠ c) (n : Nat) : Lacks k (repeated n c) := by
  rw [repeated, lacks_ofList]
  exact fun h => hc (List.eq_of_mem_replicate h)

/-- Padding adds blanks only. -/
@[simp]
theorem lacks_padRight {n : Nat} (hk : k ≠ ' ') : Lacks k (padRight n s) ↔ Lacks k s := by
  simp [padRight, lacks_repeated hk]

/-! ## Texts cut and trimmed -/

/-- Trimming adds nothing. -/
theorem Lacks.trimmedRight (h : Lacks k s) : Lacks k (trimmedRight s) := by
  rw [Text.trimmedRight, lacks_ofList]
  exact fun hmem => h (mem_of_mem_trimRight hmem)

/-- Cutting a text marks it by points only. -/
theorem Lacks.truncateChars (h : Lacks k s) (hk : k ≠ '.') (n : Nat) :
    Lacks k (truncateChars s n) := by
  have htake : ∀ m, Lacks k (String.ofList (s.toList.take m)) := fun m => by
    rw [lacks_ofList]
    exact fun hmem => h (List.mem_of_mem_take hmem)
  have hmark : Lacks k "..." := by simpa [Lacks] using hk
  unfold Text.truncateChars
  split
  · exact h
  · split
    · exact htake n
    · exact lacks_append.mpr ⟨htake _, hmark⟩

/-- A text is cut to so many characters. -/
theorem length_truncateChars_le (s : String) (n : Nat) : (truncateChars s n).length ≤ n := by
  unfold truncateChars
  split
  · assumption
  · split
    · rw [String.length_ofList, List.length_take]
      exact Nat.min_le_left _ _
    · have hpoints : ("...").length = 3 := rfl
      rw [String.length_append, String.length_ofList, List.length_take, hpoints]
      omega

/-- The lines of a text have characters of the text. -/
theorem mem_of_mem_splitLines {s line : List Char} (hline : line ∈ splitLines s) (hk : k ∈ line) :
    k ∈ s := by
  fun_induction splitLines s generalizing line with
  | case1 => cases hline
  | case2 rest ih =>
      rcases List.mem_cons.mp hline with rfl | hline
      · cases hk
      · exact List.mem_cons_of_mem _ (ih hline hk)
  | case3 rest ih =>
      rcases List.mem_cons.mp hline with rfl | hline
      · cases hk
      · exact List.mem_cons_of_mem _ (List.mem_cons_of_mem _ (ih hline hk))
  | case4 c => exact List.mem_singleton.mp hline ▸ hk
  | case5 c _ d rest first others _ hsplit ih =>
      rw [hsplit] at hline
      rcases List.mem_cons.mp hline with rfl | hline
      · rcases List.mem_cons.mp hk with rfl | hk
        · exact List.mem_cons_self
        · exact List.mem_cons_of_mem _ (ih (hsplit ▸ List.mem_cons_self) hk)
      · exact List.mem_cons_of_mem _ (ih (hsplit ▸ List.mem_cons_of_mem _ hline) hk)
  | case6 c _ d rest _ hsplit =>
      rw [hsplit] at hline
      rw [List.mem_singleton.mp hline, List.mem_singleton] at hk
      exact hk ▸ List.mem_cons_self

/-- No line holds what the text does without. -/
theorem Lacks.of_mem_lines (h : Lacks k s) {line : String} (hline : line ∈ lines s) :
    Lacks k line := by
  obtain ⟨cs, hcs, rfl⟩ := List.mem_map.mp hline
  rw [lacks_ofList]
  exact fun hk => h (mem_of_mem_splitLines hcs hk)

/-! ## Capital letters and digits -/

/-- A number that is no code point stands for the null character. -/
theorem toNat_ofNat_eq (n : Nat) : (Char.ofNat n).toNat = n ∨ (Char.ofNat n).toNat = 0 := by
  by_cases h : n.isValidChar
  · exact Or.inl (congrArg Char.toNat (dif_pos h))
  · exact Or.inr (congrArg Char.toNat (dif_neg h))

/-- The tables lead to no control characters. -/
theorem upper_tables : (∀ r ∈ upperRuns, 0x20 ≤ (r.first : Int) + r.shift) ∧
    ∀ e ∈ longUpper, ∀ n ∈ e.2, 0x20 ≤ (Char.ofNat n).toNat := by
  decide +kernel

/-- No letter of ASCII becomes a control character in upper case. -/
theorem toUpper_of_lt {c : Char} (hc : c.toNat < 128) (h : c.toUpper.toNat < 0x20) :
    c.toUpper = c := by
  have hascii : ∀ n < 128, (Char.ofNat n).toUpper.toNat < 0x20 →
      (Char.ofNat n).toUpper = Char.ofNat n := by decide
  have hchar := hascii c.toNat hc
  rw [Char.ofNat_toNat] at hchar
  exact hchar h

/-- A shift leads beyond the control characters. -/
theorem le_shiftCase {n : Nat} (hn : 0x20 ≤ n) : 0x20 ≤ shiftCase upperRuns n := by
  unfold shiftCase
  split
  · next r hr =>
      have hshift := upper_tables.1 r (List.mem_of_find?_eq_some hr)
      have hrange := List.find?_some hr
      simp only [Bool.and_eq_true, decide_eq_true_eq] at hrange
      omega
  · exact hn

/-- Only a control character becomes one. -/
theorem eq_of_mem_upperChar {c : Char} (hk : IsAsciiControl k) (h : k ∈ upperChar c) : k = c := by
  obtain ⟨hpos, hlow⟩ := hk
  unfold upperChar at h
  split at h
  · next hc =>
      rw [List.mem_singleton] at h
      rw [h] at hlow ⊢
      exact toUpper_of_lt hc hlow
  · next hc =>
      unfold mapCase at h
      split at h
      · next e he =>
          obtain ⟨n, hn, rfl⟩ := List.mem_map.mp h
          have hhigh := upper_tables.2 e (List.mem_of_find?_eq_some he) n hn
          exact absurd hlow (Nat.not_lt.mpr hhigh)
      · have hshift := le_shiftCase (Nat.le_trans (show 0x20 ≤ 128 by decide) (Nat.not_lt.mp hc))
        rw [List.mem_singleton.mp h] at hpos hlow
        rcases toNat_ofNat_eq (shiftCase upperRuns c.toNat) with heq | hzero
        · omega
        · omega

/-- Upper case makes no control character. -/
theorem Lacks.upper (h : Lacks k s) (hk : IsAsciiControl k) : Lacks k (upper s) := by
  rw [Text.upper, lacks_ofList, List.mem_flatMap]
  rintro ⟨c, hc, hmem⟩
  exact h (eq_of_mem_upperChar hk hmem ▸ hc)

theorem le_of_isDigit {c : Char} (h : c.isDigit = true) : 0x20 ≤ c.toNat := by
  rw [Char.isDigit, Bool.and_eq_true, decide_eq_true_eq] at h
  exact Nat.le_trans (by decide) h.1

/-- A number is written in digits. -/
theorem lacks_repr (hk : IsAsciiControl k) (n : Nat) : Lacks k n.repr := by
  have hchars : n.repr.toList = Nat.toDigits 10 n := String.toList_ofList
  refine hk.lacks (isPrinted_iff.mpr fun c hc => ?_)
  exact le_of_isDigit (Nat.isDigit_of_mem_toDigits (by decide) (by decide) (hchars ▸ hc))

end DefectCatalog.Text
