import DefectCatalog.Screen.Paragraph

/-!
# What drawing lines does to a row

Lines that are drawn below each other do not get in each other's way: a row of
the screen looks as if only the line that belongs there had been drawn, and
stays as it was if there is none (`sameRow_drawCut`).
-/

namespace DefectCatalog.Screen

namespace Area

/-- The item that belongs on row `y` when items stand below each other in an area. -/
def itemOn? {α : Type} (a : Area) (items : List α) (y : Nat) : Option α :=
  if a.y ≤ y ∧ y < a.bottom then items[y - a.y]? else none

variable {α : Type} {a : Area} {y : Nat}

theorem itemOn?_nil (a : Area) (y : Nat) : a.itemOn? ([] : List α) y = none := by
  simp [itemOn?]

/-- The first item belongs on the first row, and the others below. -/
theorem itemOn?_cons (h : a.height ≠ 0) (i : α) (items : List α) :
    a.itemOn? (i :: items) y =
      if y = a.y then some i
      else { a with y := a.y + 1, height := a.height - 1 }.itemOn? items y := by
  unfold itemOn? bottom
  by_cases hfirst : y = a.y
  · have hin : a.y ≤ y ∧ y < a.y + a.height := by omega
    rw [if_pos hfirst, if_pos hin, hfirst, Nat.sub_self]
    rfl
  · rw [if_neg hfirst]
    by_cases hin : a.y + 1 ≤ y ∧ y < a.y + 1 + (a.height - 1)
    · have hin' : a.y ≤ y ∧ y < a.y + a.height := by omega
      have hindex : y - a.y = (y - (a.y + 1)) + 1 := by omega
      rw [if_pos hin, if_pos hin', hindex, List.getElem?_cons_succ]
    · have hin' : ¬ (a.y ≤ y ∧ y < a.y + a.height) := by omega
      rw [if_neg hin, if_neg hin']

/-- What is made of the items that there is room for belongs on their rows. -/
theorem itemOn?_map_take {β : Type} (a : Area) (f : α → β) (items : List α) (y : Nat) :
    a.itemOn? ((items.take a.height).map f) y = (a.itemOn? items y).map f := by
  unfold itemOn? bottom
  split
  · next hin =>
      have hroom : y - a.y < a.height := by omega
      rw [List.getElem?_map, List.getElem?_take_of_lt hroom]
  · rfl

end Area

namespace Canvas

/-- The cell at a place, if it is on the canvas. -/
def cell? (c : Canvas) (x y : Nat) : Option Cell :=
  if x < c.width ∧ y < c.height then c.cells[y * c.width + x]? else none

/-- Two canvases of one size look the same on a row. -/
structure SameRow (y : Nat) (c d : Canvas) : Prop where
  width_eq : c.width = d.width
  height_eq : c.height = d.height
  cell?_eq : ∀ x, c.cell? x y = d.cell? x y

variable {c d e : Canvas} {x y : Nat}

theorem SameRow.refl (y : Nat) (c : Canvas) : SameRow y c c :=
  ⟨rfl, rfl, fun _ => rfl⟩

theorem SameRow.trans (h₁ : SameRow y c d) (h₂ : SameRow y d e) : SameRow y c e :=
  ⟨h₁.width_eq.trans h₂.width_eq, h₁.height_eq.trans h₂.height_eq,
    fun x => (h₁.cell?_eq x).trans (h₂.cell?_eq x)⟩

/-! ## One cell -/

theorem size_modify (c : Canvas) (x y : Nat) (f : Cell → Cell) :
    (c.modify x y f).width = c.width ∧ (c.modify x y f).height = c.height := by
  unfold modify
  split
  · exact ⟨rfl, rfl⟩
  · exact ⟨rfl, rfl⟩

/-- Different places have different cells. -/
theorem place_inj {w x x' y y' : Nat} (hx : x < w) (hx' : x' < w) :
    y * w + x = y' * w + x' ↔ x' = x ∧ y' = y := by
  constructor
  · intro heq
    have hcolumn : x = x' := by
      have hmod : (y * w + x) % w = (y' * w + x') % w := congrArg (· % w) heq
      rwa [Nat.mul_add_mod_of_lt hx, Nat.mul_add_mod_of_lt hx'] at hmod
    have hrow : y * w = y' * w := by omega
    exact ⟨hcolumn.symm, (Nat.eq_of_mul_eq_mul_right (Nat.zero_lt_of_lt hx) hrow).symm⟩
  · rintro ⟨rfl, rfl⟩
    rfl

/-- Changing a cell changes that cell alone. -/
theorem cell?_modify (c : Canvas) (x y : Nat) (f : Cell → Cell) (x' y' : Nat) :
    (c.modify x y f).cell? x' y' =
      if x' = x ∧ y' = y then (c.cell? x y).map f else c.cell? x' y' := by
  by_cases hin : x < c.width ∧ y < c.height
  · have hmodify : c.modify x y f = { c with cells := c.cells.modify (y * c.width + x) f } := by
      simp [modify, hin]
    rw [hmodify]
    unfold cell?
    dsimp only
    by_cases hin' : x' < c.width ∧ y' < c.height
    · rw [if_pos hin', if_pos hin, if_pos hin', Array.getElem?_modify]
      by_cases hplace : x' = x ∧ y' = y
      · rw [if_pos hplace, if_pos ((place_inj hin.1 hin'.1).mpr hplace), hplace.1, hplace.2]
      · rw [if_neg hplace, if_neg fun heq => hplace ((place_inj hin.1 hin'.1).mp heq)]
    · have hplace : ¬ (x' = x ∧ y' = y) := by
        rintro ⟨rfl, rfl⟩
        exact hin' hin
      rw [if_neg hin', if_neg hplace, if_neg hin']
  · have hmodify : c.modify x y f = c := by simp [modify, hin]
    have hnone : c.cell? x y = none := if_neg hin
    rw [hmodify, hnone]
    split
    · next hplace => rw [hplace.1, hplace.2, hnone]; rfl
    · rfl

/-- Changing a cell leaves other rows alone. -/
theorem sameRow_modify_of_ne {y' : Nat} (c : Canvas) (f : Cell → Cell) (h : y' ≠ y) :
    SameRow y' (c.modify x y f) c := by
  obtain ⟨hwidth, hheight⟩ := c.size_modify x y f
  refine ⟨hwidth, hheight, ?_⟩
  intro x'
  rw [cell?_modify, if_neg fun hplace => h hplace.2]

/-- What changing a cell makes of its row depends on that row alone. -/
theorem SameRow.modify (h : SameRow y c d) (x : Nat) (f : Cell → Cell) :
    SameRow y (c.modify x y f) (d.modify x y f) := by
  obtain ⟨hwidth, hheight⟩ := c.size_modify x y f
  obtain ⟨hwidth', hheight'⟩ := d.size_modify x y f
  refine ⟨?_, ?_, ?_⟩
  · rw [hwidth, hwidth', h.width_eq]
  · rw [hheight, hheight', h.height_eq]
  · intro x'
    rw [cell?_modify, cell?_modify, h.cell?_eq x, h.cell?_eq x']

/-! ## One line -/

/-- Drawing glyphs leaves other rows alone. -/
theorem sameRow_drawRun_of_ne {y' : Nat} (c : Canvas) (x : Nat) (gs : List Glyph) (h : y' ≠ y) :
    SameRow y' (c.drawRun x y gs) c := by
  induction gs generalizing c x with
  | nil => exact .refl y' c
  | cons g gs ih =>
      unfold drawRun
      split
      · exact ih c x
      · exact (ih (c.modify x y (Cell.put g)) (x + g.width)).trans (c.sameRow_modify_of_ne _ h)

/-- What glyphs make of their row depends on that row alone. -/
theorem SameRow.drawRun (h : SameRow y c d) (x : Nat) (gs : List Glyph) :
    SameRow y (c.drawRun x y gs) (d.drawRun x y gs) := by
  induction gs generalizing c d x with
  | nil => exact h
  | cons g gs ih =>
      unfold Canvas.drawRun
      split
      · exact ih h x
      · exact ih (h.modify x (Cell.put g)) (x + g.width)

/-! ## Lines below each other -/

/-- Of runs below each other, a row shows the one that belongs there. -/
theorem sameRow_drawRuns (c : Canvas) (a : Area) (alignment : Alignment)
    (runs : List (List Glyph)) (y : Nat) :
    SameRow y (c.drawRuns a alignment runs)
      (c.drawRuns { a with y, height := 1 } alignment (a.itemOn? runs y).toList) := by
  induction runs generalizing c a with
  | nil =>
      rw [Area.itemOn?_nil]
      exact .refl y c
  | cons gs runs ih =>
      by_cases hheight : a.height = 0
      · have hout : ¬ (a.y ≤ y ∧ y < a.bottom) := by
          unfold Area.bottom
          omega
        rw [Area.itemOn?, if_neg hout, drawRuns, if_pos hheight]
        exact .refl y c
      · have hrest := ih (c.drawRun (a.x + alignment.offset (glyphsWidth gs) a.width) a.y gs)
          { a with y := a.y + 1, height := a.height - 1 }
        rw [drawRuns, if_neg hheight, Area.itemOn?_cons hheight]
        by_cases hfirst : y = a.y
        · -- no further line reaches the first row
          have hnone : { a with y := a.y + 1, height := a.height - 1 }.itemOn? runs y = none := by
            rw [Area.itemOn?, if_neg]
            show ¬ (a.y + 1 ≤ y ∧ _)
            omega
          rw [hnone] at hrest
          rw [if_pos hfirst]
          subst hfirst
          exact hrest
        · rw [if_neg hfirst]
          refine hrest.trans ?_
          have hother := c.sameRow_drawRun_of_ne
            (a.x + alignment.offset (glyphsWidth gs) a.width) gs hfirst
          cases { a with y := a.y + 1, height := a.height - 1 }.itemOn? runs y with
          | none => exact hother
          | some run => exact hother.drawRun _ run

/-- Where there is a column, cut lines are drawn as runs. -/
theorem drawCut_eq (c : Canvas) {a : Area} (h : a.width ≠ 0) (lines : List Line)
    (alignment : Alignment) : c.drawCut a lines alignment =
      c.drawRuns a alignment
        ((lines.take a.height).map fun l => cutGlyphs a.width 0 l.glyphs) := by
  by_cases hheight : a.height = 0
  · simp [drawCut, Area.isEmpty, hheight, drawRuns]
  · simp [drawCut, Area.isEmpty, hheight, h]

/-- **Of lines below each other, a row shows the one that belongs there**, as if it
had been drawn alone. -/
theorem sameRow_drawCut (c : Canvas) (a : Area) (lines : List Line) (alignment : Alignment)
    (y : Nat) :
    SameRow y (c.drawCut a lines alignment)
      (c.drawCut { a with y, height := 1 } (a.itemOn? lines y).toList alignment) := by
  by_cases hwidth : a.width = 0
  · simp only [drawCut, Area.isEmpty, hwidth, beq_self_eq_true, Bool.true_or, if_true]
    exact .refl y c
  · have hruns := c.sameRow_drawRuns a alignment
      ((lines.take a.height).map fun l => cutGlyphs a.width 0 l.glyphs) y
    have hline : (a.itemOn? lines y).toList.take 1 = (a.itemOn? lines y).toList := by
      cases a.itemOn? lines y <;> rfl
    rw [Area.itemOn?_map_take, Option.toList_map] at hruns
    have hwidth' : ({ a with y, height := 1 } : Area).width ≠ 0 := hwidth
    rw [c.drawCut_eq hwidth, c.drawCut_eq hwidth', hline]
    exact hruns

end Canvas

end DefectCatalog.Screen
