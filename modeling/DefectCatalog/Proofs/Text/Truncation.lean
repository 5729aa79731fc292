import DefectCatalog.Proofs.Text.Unicode

/-!
# Texts cut to cells

A text is measured as a whole to decide whether it is cut, and character by character to
decide where.  Cutting keeps the longest beginning that fits by the second measure
(`prefix_takeCells_iff`).  By the first one a text can be wider than its characters, by a
cell for each control character and each selector that asks for an emoji
(`Measure.Lawful.width_le`), so a text without these is never cut to more cells than asked
for.
-/

namespace DefectCatalog.Text

/-! ## The room -/

/-- The cells that are left for the beginning of a text that is cut. -/
def budget (max : Nat) : Nat :=
  if max ≤ 3 then max else max - 3

/-- What follows the beginning of a text that is cut. -/
def ellipsis (max : Nat) : String :=
  if max ≤ 3 then "" else "..."

theorem budget_add_length_ellipsis (max : Nat) : budget max + (ellipsis max).length = max := by
  unfold budget ellipsis
  split
  · rfl
  · next h => exact Nat.sub_add_cancel (Nat.le_of_lt (Nat.lt_of_not_le h))

section

variable [Measure] {s p : List Char}

/-! ## The longest beginning -/

/-- **What is taken is the longest beginning that fits**: the beginnings of it are those that
fit. -/
theorem prefix_takeCells_iff {n : Nat} : p <+: takeCells n s ↔ p <+: s ∧ charCells p ≤ n := by
  induction s generalizing n p with
  | nil =>
      rw [takeCells]
      constructor
      · intro h
        rw [List.prefix_nil.mp h]
        exact ⟨List.nil_prefix, Nat.zero_le n⟩
      · exact And.left
  | cons c s ih =>
      cases p with
      | nil => exact iff_of_true List.nil_prefix ⟨List.nil_prefix, Nat.zero_le n⟩
      | cons d p =>
          rw [takeCells]
          split
          · next hc =>
              rw [List.cons_prefix_cons, List.cons_prefix_cons, ih, charCells_cons]
              constructor
              · rintro ⟨rfl, hp, hcells⟩
                exact ⟨⟨rfl, hp⟩, by omega⟩
              · rintro ⟨⟨rfl, hp⟩, hcells⟩
                exact ⟨rfl, hp, by omega⟩
          · next hc =>
              rw [List.prefix_nil, List.cons_prefix_cons, charCells_cons]
              constructor
              · intro h
                cases h
              · rintro ⟨⟨rfl, -⟩, hcells⟩
                exact absurd (Nat.le_of_add_right_le hcells) hc

/-! ## The cut -/

theorem width_append_ellipsis [Measure.Lawful] (s : String) (max : Nat) :
    width (s ++ ellipsis max) = width s + (ellipsis max).length := by
  refine width_append_plain s ?_
  unfold ellipsis
  split <;> exact List.all_eq_true.mp (by decide)

/-- The text `s` is too wide and was cut to `t`, with `kept` left of it. -/
structure Cut (s : String) (max : Nat) (kept t : String) : Prop where
  /-- A beginning is left, and three points follow it if there is room for more than them. -/
  text : t = kept ++ ellipsis max
  kept_prefix : kept.toList <+: s.toList
  /-- It is the longest one whose characters fit one by one. -/
  fits : charCells kept.toList ≤ budget max
  longest : ∀ p, p <+: s.toList → charCells p ≤ budget max → p <+: kept.toList
  /-- The text is not too wide any more exactly if what is left fits as a whole, too, -/
  width_le_iff : width t ≤ max ↔ width kept ≤ budget max
  /-- and it is too wide by no more than the characters that swell. -/
  width_le : width t ≤ max + kept.toList.countP swells

theorem truncateCells_of_lt {s : String} {max : Nat} (h : max < width s) :
    truncateCells s max = String.ofList (takeCells (budget max) s.toList) ++ ellipsis max := by
  unfold truncateCells budget ellipsis
  rw [if_neg (Nat.not_le_of_lt h)]
  split
  · exact (String.append_empty).symm
  · rfl

/-- A text that is too wide is cut where its characters stop fitting one by one. -/
theorem cut_of_lt [Measure.Lawful] {s : String} {max : Nat} (h : max < width s) :
    Cut s max (.ofList (takeCells (budget max) s.toList)) (truncateCells s max) := by
  generalize hkept : takeCells (budget max) s.toList = kept
  have hprefixes (p : List Char) : p <+: kept ↔ p <+: s.toList ∧ charCells p ≤ budget max := by
    rw [← hkept]
    exact prefix_takeCells_iff
  have hself := (hprefixes kept).mp List.prefix_rfl
  have htext : truncateCells s max = String.ofList kept ++ ellipsis max := by
    rw [truncateCells_of_lt h, hkept]
  have hwidth := width_append_ellipsis (String.ofList kept) max
  have hswollen := Measure.Lawful.width_le (String.ofList kept)
  rw [String.toList_ofList] at hswollen
  have hmax := budget_add_length_ellipsis max
  refine ⟨htext, ?_, ?_, ?_, ?_, ?_⟩
  · rw [String.toList_ofList]
    exact hself.1
  · rw [String.toList_ofList]
    exact hself.2
  · intro p hp hcells
    rw [String.toList_ofList]
    exact (hprefixes p).mpr ⟨hp, hcells⟩
  · rw [htext, hwidth]
    omega
  · rw [htext, hwidth, String.toList_ofList]
    omega

/-- **How a text is cut to so many cells**, by any measure.  It is left as it is if it fits, and
otherwise the longest beginning is left whose characters fit one by one, with three points if
there is room for them.  It is not too wide then if it has no control character and nothing in
it asks for an emoji. -/
theorem cut_truncateCells [Measure.Lawful] (s : String) (max : Nat) :
    (width s ≤ max → truncateCells s max = s) ∧
    (max < width s → ∃ kept, Cut s max kept (truncateCells s max)) ∧
    ((∀ c ∈ s.toList, isControl c = false ∧ isEmojiSelector c = false) →
      width (truncateCells s max) ≤ max) := by
  have hfits (h : width s ≤ max) : truncateCells s max = s := if_pos h
  refine ⟨hfits, fun h => ⟨_, cut_of_lt h⟩, ?_⟩
  intro hplain
  rcases Nat.lt_or_ge max (width s) with h | h
  · have hcut := cut_of_lt h
    have hnone : (String.ofList (takeCells (budget max) s.toList)).toList.countP swells = 0 := by
      refine List.countP_eq_zero.mpr fun c hc => ?_
      obtain ⟨hcontrol, hselector⟩ := hplain c (hcut.kept_prefix.subset hc)
      simp [swells, hcontrol, hselector]
    have hle := hcut.width_le
    rwa [hnone] at hle
  · rw [hfits h]
    exact h

end

/-- Three wide characters are cut to one and three points, which takes five of six cells. -/
theorem cut_truncateCells_of_wide :
    6 < width "日本語日本語" ∧ truncateCells "日本語日本語" 6 = "日..." ∧
      (∃ kept, Cut "日本語日本語" 6 kept "日...") ∧ width "日..." ≤ 6 := by
  have hwide : 6 < width "日本語日本語" := by decide +kernel
  have htext : truncateCells "日本語日本語" 6 = "日..." := by decide +kernel
  have hplain : "日本語日本語".toList.all fun c => !isControl c && !isEmojiSelector c := by
    decide +kernel
  obtain ⟨-, hcut, hfits⟩ := cut_truncateCells "日本語日本語" 6
  rw [htext] at hcut hfits
  refine ⟨hwide, htext, hcut hwide, hfits fun c hc => ?_⟩
  have hc' := List.all_eq_true.mp hplain c hc
  rwa [Bool.and_eq_true, Bool.not_eq_true', Bool.not_eq_true'] at hc'

/-- **Tabs take more cells than they are counted.**  Three letters and three tabs fit into three
cells character by character, so that the text that is cut to six cells takes nine. -/
theorem tabs_exceed_cells :
    truncateCells "a\tb\tc\td\te" 6 = "a\tb\tc\t..." ∧ width "a\tb\tc\t..." = 9 := by
  decide +kernel

end DefectCatalog.Text
