import DefectCatalog.Proofs.Text.Width

/-!
# The widths of the character database

The cells of a text are counted from its end, so printed characters of ASCII at the
end are counted first, and leave nothing behind them that matters
(`measured_append_plain`).  A character is tied to what stands behind it at a cost
that has been paid (`owed`), and takes no more cells than by itself, unless a
selector has left a cell for it or flags before a joiner have left theirs (`spare`).
So every step pays for what it ties (`pays_widthStep`), which bounds the cells of a text
from both sides, and makes the measure a lawful one.
-/

namespace DefectCatalog.Text

variable {c : Char} {b b' : Behind} {n : Int} {s t : List Char}

/-! ## Ranges -/

/-- Whether no range of `ranges` meets one of `others`. -/
def rangesApart (others ranges : List (Nat × Nat)) : Bool :=
  ranges.all fun r => others.all fun o => Nat.blt r.2 o.1 || Nat.blt o.2 r.1

theorem inRanges_iff {ranges : List (Nat × Nat)} {n : Nat} :
    inRanges ranges n ↔ ∃ r ∈ ranges, r.1 ≤ n ∧ n ≤ r.2 := by
  simp [inRanges]

/-- Where two tables are apart, a character is in one of them only. -/
theorem not_inRanges_of_apart {others ranges : List (Nat × Nat)} {n : Nat}
    (h : rangesApart others ranges) (hn : inRanges ranges n) : inRanges others n = false := by
  obtain ⟨r, hr, hlow, hhigh⟩ := inRanges_iff.mp hn
  rw [Bool.eq_false_iff]
  intro hothers
  obtain ⟨o, ho, hlow', hhigh'⟩ := inRanges_iff.mp hothers
  have hapart := List.all_eq_true.mp (List.all_eq_true.mp h r hr) o ho
  rw [Bool.or_eq_true, Nat.blt_eq, Nat.blt_eq] at hapart
  omega

/-- A character away from those of no width takes a cell. -/
theorem printedWidth_pos (ranges : List (Nat × Nat)) (hapart : rangesApart zeroWidthRanges ranges)
    (hc : inRanges ranges c.toNat) : 1 ≤ printedWidth c := by
  have hzero := not_inRanges_of_apart hapart hc
  have hsoft : (c.toNat == 0xAD) = false := by
    rw [Bool.eq_false_iff]
    intro hsoft
    rw [beq_iff_eq.mp hsoft] at hzero
    exact absurd hzero (by decide)
  rw [printedWidth, hsoft, hzero]
  simp only [Bool.false_eq_true, if_false]
  split
  · exact Nat.le_refl 1
  split
  · decide
  split <;> decide

theorem printedWidth_pos_of_regional (h : isRegional c) : 1 ≤ printedWidth c := by
  refine printedWidth_pos [(0x1F1E6, 0x1F1FF)] (by decide +kernel) ?_
  simpa [isRegional, inRanges] using h

/-! ## What a tie costs -/

/-- The cells that what stands behind has, and that a tie to it may take back. -/
def owed : Behind → Nat
  | .subscript | .tiedConsonant | .joinedRegional | .joinedOdd => 1
  | _ => 0

/-- The cells that what stands behind takes less than its characters. -/
def spare : Behind → Nat
  | .joinedEven => 2
  | _ => 0

/-- **A tie pays**: what it adds pays what is owed then, and is no more than the character and
what is spared. -/
theorem tie?_bounds (h : tie? b c = some (n, b')) :
    owed b' ≤ owed b + n ∧ n + spare b' ≤ printedWidth c + spare b := by
  have hregional := printedWidth_pos_of_regional (c := c)
  have hsign (hc : c.toNat = 0x2D7F) : 1 ≤ printedWidth c := by
    refine printedWidth_pos [(0x2D7F, 0x2D7F)] (by decide +kernel) ?_
    simp [inRanges, hc]
  have hvowel (hc : c.toNat = 0x16D68) : 1 ≤ printedWidth c := by
    refine printedWidth_pos [(0x16D68, 0x16D68)] (by decide +kernel) ?_
    simp [inRanges, hc]
  cases b <;> grind [tie?, owed, spare]

/-! ## Characters by themselves -/

theorem isControl_eq_false (h : ¬ (c.toNat < 0x20 ∨ (0x7F ≤ c.toNat ∧ c.toNat < 0xA0))) :
    isControl c = false := by
  rw [isControl, Bool.eq_false_iff, ne_eq, Bool.or_eq_true, Bool.and_eq_true, decide_eq_true_eq,
    decide_eq_true_eq, decide_eq_true_eq]
  exact h

/-- A character that is no control character is as wide as it is printed. -/
theorem charWidth_of_not_control (h : isControl c = false) : charWidth c = printedWidth c := by
  show (if isControl c then 0 else printedWidth c) = printedWidth c
  rw [h]
  rfl

/-- The characters up to the blank that is not broken are counted as a cell each. -/
theorem printedWidth_of_le (h : c.toNat ≤ 0xA0) : printedWidth c = 1 := by
  have hsoft : (c.toNat == 0xAD) = false := by
    rw [beq_eq_false_iff_ne]
    omega
  rw [printedWidth, if_pos (by omega), hsoft]
  rfl

theorem charWidth_of_isPlain (h : isPlain c) : charWidth c = 1 := by
  obtain ⟨hlow, hhigh⟩ := isPlain_iff.mp h
  rw [charWidth_of_not_control (isControl_eq_false (by omega)), printedWidth_of_le (by omega)]

/-- The cells of a character in a text, if nothing has been spared. -/
def grossWidth (c : Char) : Nat :=
  charWidth c + (swells c).toNat

/-- A printed character does not take less in a text than by itself, if nothing is spared. -/
theorem printedWidth_le_grossWidth (h : isControl c = false) :
    printedWidth c ≤ grossWidth c := by
  rw [grossWidth, charWidth_of_not_control h]
  exact Nat.le_add_right _ _

/-- Control characters and emoji selectors count as a cell. -/
theorem grossWidth_pos_of_swells (h : swells c) : 1 ≤ grossWidth c := by
  rw [grossWidth, h]
  exact Nat.le_add_left 1 _

theorem grossWidth_pos_of_printed (h : 1 ≤ printedWidth c) : 1 ≤ grossWidth c := by
  cases hcontrol : isControl c with
  | false => exact Nat.le_trans h (printedWidth_le_grossWidth hcontrol)
  | true =>
      refine grossWidth_pos_of_swells ?_
      rw [swells, hcontrol]
      rfl

/-- The characters of the first table are controls or take a cell. -/
theorem grossWidth_pos_of_le (h : c.toNat ≤ 0xA0) : 1 ≤ grossWidth c :=
  grossWidth_pos_of_printed (Nat.le_of_eq (printedWidth_of_le h).symm)

theorem printedWidth_pos_of_textForm (h : inRanges textFormRanges c.toNat) :
    1 ≤ printedWidth c :=
  printedWidth_pos _ (by decide +kernel) h

/-- An emoji that can be asked for takes a cell by itself. -/
theorem grossWidth_pos_of_emojiForm (h : hasEmojiForm c) : 1 ≤ grossWidth c := by
  refine grossWidth_pos_of_printed ?_
  rw [hasEmojiForm, Bool.or_eq_true] at h
  rcases h with hemoji | htext
  · exact printedWidth_pos _ (by decide +kernel) hemoji
  · exact printedWidth_pos_of_textForm htext

/-- An emoji that has a text form takes a cell by itself. -/
theorem grossWidth_pos_of_textForm (h : hasTextForm c) : 1 ≤ grossWidth c := by
  rw [hasTextForm, Bool.and_eq_true] at h
  exact grossWidth_pos_of_printed (printedWidth_pos_of_textForm h.1)

/-! ## One step -/

/-- The cells that are spared by what has been passed: those of flags before a joiner, and one
for a selector that asks for an emoji. -/
def WidthContext.spare (s : WidthContext) : Nat :=
  Text.spare s.behind + (if s.selector = some .emoji then 1 else 0)

/-- A selector that asks for an emoji spares a cell. -/
theorem spare_of_selected {s : WidthContext} (h : s.selector = some .emoji) :
    s.spare = spare s.behind + 1 := by
  rw [WidthContext.spare, if_pos h]

theorem spare_le (s : WidthContext) : spare s.behind ≤ s.spare :=
  Nat.le_add_right _ _

theorem spare_unselected (b : Behind) : (⟨b, none⟩ : WidthContext).spare = spare b :=
  rfl

/-- What a step adds pays what is owed by what stands behind it then, and is no more than the
character takes by itself and what has been spared before and is not any more. -/
def Pays (s : WidthContext) (c : Char) (step : Int × WidthContext) : Prop :=
  owed step.2.behind ≤ owed s.behind + step.1 ∧ step.1 + step.2.spare ≤ grossWidth c + s.spare

/-- A step pays if it did so with less owed and spared behind it. -/
theorem Pays.of_le {s s' : WidthContext} {step : Int × WidthContext} (h : Pays s' c step)
    (howed : owed s'.behind ≤ owed s.behind) (hspare : s'.spare ≤ s.spare) : Pays s c step := by
  obtain ⟨hlower, hupper⟩ := h
  exact ⟨by omega, by omega⟩

/-- A step that leaves a character or nothing, and nothing to be paid, takes what it can. -/
theorem Pays.of_settled {s : WidthContext} (howed : owed b = 0) (hspare : spare b = 0)
    (hlow : 0 ≤ n) (hhigh : n ≤ grossWidth c + s.spare) : Pays s c (n, ⟨b, none⟩) := by
  simp only [Pays, spare_unselected]
  exact ⟨by omega, by omega⟩

theorem owed_le_one (b : Behind) : owed b ≤ 1 := by
  unfold owed
  split <;> decide

/-- Whatever a character owes to those in front of it, it has taken itself. -/
theorem owed_behindOf_le (c : Char) : owed (behindOf c) ≤ printedWidth c := by
  by_cases hletter : inRanges khmerLetterRanges c.toNat
  · exact Nat.le_trans (owed_le_one _) (printedWidth_pos _ (by decide +kernel) hletter)
  · have hnone : owed (behindOf c) = 0 := by
      simp only [behindOf, apply_ite owed, hletter, Bool.false_eq_true, if_false]
      simp only [owed, ite_self]
    rw [hnone]
    exact Nat.zero_le _

/-- A character spares nothing by itself. -/
theorem spare_behindOf (c : Char) : spare (behindOf c) = 0 := by
  simp only [behindOf, apply_ite spare]
  simp only [spare, ite_self]

/-- A joiner before a ligature owes as much as the ligature. -/
theorem owed_join (b : Behind) : owed b.join = owed b := by
  cases b <;> rfl

theorem spare_join (b : Behind) : spare b.join = spare b := by
  cases b <;> rfl

/-- A step without regard to selectors pays. -/
theorem pays_unselectedStep (s : WidthContext) (hc : isControl c = false) :
    Pays s c (unselectedStep s.behind c) := by
  have hwidth := printedWidth_le_grossWidth hc
  have hspare := spare_le s
  unfold unselectedStep
  split
  · simp only [Pays, spare_unselected, owed_join, spare_join]
    exact ⟨by omega, by omega⟩
  split
  · simp only [Pays, spare_unselected]
    exact ⟨by omega, by omega⟩
  split
  · next n b' htie =>
      obtain ⟨hlower, hupper⟩ := tie?_bounds htie
      simp only [Pays, spare_unselected]
      exact ⟨hlower, by omega⟩
  · have howed := owed_behindOf_le c
    simp only [Pays, spare_unselected, spare_behindOf]
    exact ⟨by omega, by omega⟩

/-- A selector without effect owes and spares no more than one with its effect. -/
theorem unselect_le (s : WidthContext) :
    owed s.unselect.behind ≤ owed s.behind ∧ s.unselect.spare ≤ s.spare := by
  unfold WidthContext.unselect
  split
  · exact ⟨Nat.le_refl _, spare_le s⟩
  · exact ⟨Nat.zero_le _, Nat.zero_le _⟩

/-- A selector takes no cell, and one that asks for an emoji spares the cell it may take. -/
theorem pays_select (s : WidthContext) (form : Selector)
    (hform : form = .emoji → 1 ≤ grossWidth c) : Pays s c (0, s.select form) := by
  have hbehind : owed (s.select form).behind ≤ owed s.behind ∧
      spare (s.select form).behind ≤ spare s.behind := by
    unfold WidthContext.select
    split
    · exact ⟨Nat.le_refl _, Nat.le_refl _⟩
    · exact ⟨Nat.zero_le _, Nat.zero_le _⟩
  have hselector : (s.select form).selector = some form := by
    unfold WidthContext.select
    split <;> rfl
  obtain ⟨howed, hspare⟩ := hbehind
  have hle := spare_le s
  simp only [Pays]
  cases form with
  | text =>
      have hselected : (s.select .text).spare = spare (s.select .text).behind := by
        rw [WidthContext.spare, hselector]
        rfl
      exact ⟨by omega, by omega⟩
  | emoji =>
      have hselected := spare_of_selected hselector
      have hpaid := hform rfl
      exact ⟨by omega, by omega⟩

/-- A character is tied to what stands behind it also where a text selector has no effect. -/
theorem pays_forgottenText (s : WidthContext) (hc : isControl c = false) :
    Pays s c (unselectedStep (if s.selector = some .text then s.unselect else s).behind c) := by
  split
  · obtain ⟨howed, hspare⟩ := unselect_le s
    exact (pays_unselectedStep s.unselect hc).of_le howed hspare
  · exact pays_unselectedStep s hc

/-- **A step pays.** -/
theorem pays_widthStep (s : WidthContext) (c : Char) : Pays s c (widthStep s c) := by
  unfold widthStep
  split
  · next hemoji =>
      rw [Bool.and_eq_true, decide_eq_true_eq] at hemoji
      have hform := grossWidth_pos_of_emojiForm hemoji.2
      have hspare := spare_of_selected hemoji.1
      split
      · exact Pays.of_settled rfl rfl (Int.le_refl 0) (by omega)
      · exact Pays.of_settled rfl rfl (by decide) (by omega)
  · -- an emoji selector that finds no emoji is forgotten
    generalize hforgotten : (if s.selector = some .emoji then s.unselect else s) = s'
    have hle : owed s'.behind ≤ owed s.behind ∧ s'.spare ≤ s.spare := by
      rw [← hforgotten]
      split
      · exact unselect_le s
      · exact ⟨Nat.le_refl _, Nat.le_refl _⟩
    refine Pays.of_le ?_ hle.1 hle.2
    dsimp only
    split
    · next hlow =>
        have hgross := grossWidth_pos_of_le hlow
        repeat' split
        all_goals exact Pays.of_settled rfl rfl (by decide) (by omega)
    split
    · next hselector =>
        refine pays_select s' .emoji fun _ => grossWidth_pos_of_swells ?_
        rw [swells, hselector, Bool.or_true]
    split
    · exact pays_select s' .text nofun
    split
    · next htext =>
        rw [Bool.and_eq_true] at htext
        have hgross := grossWidth_pos_of_textForm htext.2
        exact Pays.of_settled rfl rfl (by decide) (by omega)
    · next hlow _ _ _ => exact pays_forgottenText s' (isControl_eq_false (by omega))

/-! ## A whole text -/

theorem measured_cons (c : Char) (s : List Char) : measured (c :: s) =
    ((measured s).1 + (widthStep (measured s).2 c).1, (widthStep (measured s).2 c).2) :=
  rfl

/-- What is owed by a text has been paid. -/
theorem owed_le_measured (s : List Char) : (owed (measured s).2.behind : Int) ≤ (measured s).1 := by
  induction s with
  | nil => exact Int.le_refl 0
  | cons c s ih =>
      obtain ⟨hlower, -⟩ := pays_widthStep (measured s).2 c
      rw [measured_cons]
      show (owed (widthStep (measured s).2 c).2.behind : Int) ≤ _
      omega

/-- A text takes no more than its characters, less what is spared. -/
theorem measured_add_spare_le (s : List Char) :
    (measured s).1 + (measured s).2.spare ≤ (charCells s + s.countP swells : Nat) := by
  induction s with
  | nil => exact Int.le_refl 0
  | cons c s ih =>
      obtain ⟨-, hupper⟩ := pays_widthStep (measured s).2 c
      have hcount : (c :: s).countP swells = (swells c).toNat + s.countP swells := by
        rw [List.countP_cons, Nat.add_comm]
        cases swells c <;> rfl
      rw [measured_cons, charCells_cons, hcount]
      rw [grossWidth] at hupper
      show (measured s).1 + (widthStep (measured s).2 c).1 +
        ((widthStep (measured s).2 c).2.spare : Int) ≤ _
      omega

/-- A printed character of ASCII takes a cell, and nothing is tied to it. -/
theorem widthStep_of_isPlain (h : isPlain c) : widthStep {} c = (1, {}) := by
  obtain ⟨hlow, hhigh⟩ := isPlain_iff.mp h
  have hfeed : c ≠ '\n' := by
    rintro rfl
    exact absurd hlow (by decide)
  unfold widthStep
  simp [hfeed]
  omega

/-- A text of such characters takes a cell for each. -/
theorem measured_of_isPlain (ht : ∀ c ∈ t, isPlain c) : measured t = ((t.length : Int), {}) := by
  induction t with
  | nil => rfl
  | cons c t ih =>
      rw [List.forall_mem_cons] at ht
      rw [measured_cons, ih ht.2, widthStep_of_isPlain ht.1, List.length_cons]
      rfl

/-- Printed characters of ASCII at the end of a text leave the width of what stands before
them. -/
theorem measured_append_plain (s : List Char) (ht : ∀ c ∈ t, isPlain c) :
    measured (s ++ t) = ((measured s).1 + t.length, (measured s).2) := by
  induction s with
  | nil =>
      rw [List.nil_append, measured_of_isPlain ht, measured]
      simp
  | cons c s ih =>
      rw [List.cons_append, measured_cons, ih, measured_cons, Int.add_right_comm]

instance : Measure.Lawful where
  width_empty := rfl
  width_append_plain s t ht := by
    have howed := owed_le_measured s.toList
    show cells (s ++ t).toList = cells s.toList + t.length
    rw [cells, cells, String.toList_append, measured_append_plain s.toList ht,
      String.length_toList]
    omega
  charWidth_plain := charWidth_of_isPlain
  width_le s := by
    have hle := measured_add_spare_le s.toList
    show cells s.toList ≤ _
    rw [cells]
    omega

end DefectCatalog.Text
