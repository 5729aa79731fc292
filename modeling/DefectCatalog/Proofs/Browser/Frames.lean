import DefectCatalog.Proofs.Browser.Acts
import DefectCatalog.Proofs.Browser.Following

/-!
# Frames without a picture

Two additions can overflow while a frame is drawn: the widths of the columns are added up
for a table with rows, and the lines of the open patch are counted.  Exactly then there is
no picture (`draw_eq_none_iff`).  The columns are those of the settings after every run
(`columns_run`), so the first of these does not depend on what was done before.
-/

namespace DefectCatalog.Browser

open Screen (Canvas Area)

variable {b b₁ : Browser} {asked : View.Operation → Prop}

/-! ## The columns stay -/

/-- Whatever is done, the columns stay. -/
theorem Deed.columns_eq (hdeed : Deed asked b b₁) : b₁.columns = b.columns := by
  have hfollowed : ∀ b' : Browser, b'.catchUp.columns = b'.columns := by
    intro b'
    obtain ⟨_, _, _, heq⟩ := b'.catchUp_eq_with
    rw [heq]
  cases hdeed with
  | aside h => exact h.columns_eq
  | operate h hops => exact (hfollowed _).trans h.columns_eq
  | sort h hc => exact (hfollowed _).trans h.columns_eq

theorem columns_step (b : Browser) (st : Step) : (b.step st).columns = b.columns :=
  (b.step_deed st).columns_eq

/-- After every run, the columns are those of the start. -/
theorem columns_run (b : Browser) (steps : List Step) : (b.run steps).columns = b.columns := by
  induction steps generalizing b with
  | nil => rfl
  | cons st steps ih => exact (ih (b.step st)).trans (b.columns_step st)

/-! ## The parts of a frame -/

/-- A table has no picture exactly if it has rows and its columns overflow. -/
theorem drawTable_fst_eq_none_iff (b : Browser) (c : Canvas) (a : Area) :
    (b.drawTable c a).1 = none ↔
      b.view.visibleSize ≠ 0 ∧ BugTable.columnsWidth? b.columns = none := by
  unfold drawTable
  dsimp only
  by_cases hempty : b.view.visibleSize = 0
  · rw [if_pos hempty]
    exact iff_of_false (by simp) (fun h => h.1 hempty)
  · rw [if_neg hempty, BugTable.restWidth?]
    cases BugTable.columnsWidth? b.columns with
    | none => simp [hempty]
    | some width => simp

/-- The line numbers of the open patch overflow. -/
def OpenPatchOverflows (b : Browser) : Prop :=
  ∃ p r, b.view.detail = .on p ∧ b.view.openRecord? = some r ∧ r.patch ≠ "" ∧
    Patch.parse? r.patch = none

/-- A patch has no picture exactly if it is not empty and cannot be read. -/
theorem drawPatch_eq_none_iff (b : Browser) (c : Canvas) (a : Area) (r : Record) :
    b.drawPatch c a r = none ↔ r.patch ≠ "" ∧ Patch.parse? r.patch = none := by
  unfold drawPatch
  dsimp only
  by_cases hempty : r.patch = ""
  · simp [hempty]
  · simp [hempty, PatchView.lines?]

/-- What is open has no picture exactly if its patch overflows. -/
theorem drawOpen_eq_none_iff (b : Browser) (c : Canvas) (a : Area) :
    b.drawOpen c a = none ↔ b.OpenPatchOverflows := by
  unfold drawOpen OpenPatchOverflows
  cases hdetail : b.view.detail with
  | closed => simp
  | on p =>
      cases hrecord : b.view.openRecord? with
      | none => simp
      | some r =>
          dsimp only [drawDetail]
          rw [drawPatch_eq_none_iff]
          simp

theorem drawAround_eq_none_iff (b : Browser) (c : Canvas) (width height : Nat) :
    b.drawAround c width height = none ↔ b.OpenPatchOverflows := by
  unfold drawAround
  dsimp only
  generalize b.drawFooter _ _ = c'
  generalize Area.mk _ _ _ _ = a
  rw [← b.drawOpen_eq_none_iff c' a]
  cases b.drawOpen c' a <;> simp

/-! ## The frame -/

/-- **When a frame has no picture**: on a screen that is large enough, if the table has rows
and its columns overflow, or if the line numbers of the open patch do. -/
theorem draw_eq_none_iff (b : Browser) (width height : Nat) :
    (b.draw width height).1 = none ↔ Screen.isLargeEnough width height ∧
      (b.view.visibleSize ≠ 0 ∧ BugTable.columnsWidth? b.columns = none ∨
        b.OpenPatchOverflows) := by
  unfold draw
  dsimp only
  by_cases hlarge : Screen.isLargeEnough width height
  · rw [if_pos hlarge, and_iff_right hlarge]
    obtain ⟨sidebar, hsidebar⟩ := b.drawSidebar_eq_with_drawn
      (b.drawHeader (.blank width height) { width, height := 1 })
      { x := 0, y := 1, width := Sidebar.width, height := height - 3 }
    rw [hsidebar]
    generalize (b.drawSidebar _ _).1 = c
    generalize Area.dropColumns _ _ = a
    obtain ⟨table, htable⟩ := drawTable_eq_with_drawn { b with drawn := sidebar } c a
    have hfirst := drawTable_fst_eq_none_iff { b with drawn := sidebar } c a
    rw [htable]
    simp only [Option.bind_eq_none_iff, drawAround_eq_none_iff]
    cases hpicture : (drawTable { b with drawn := sidebar } c a).1 with
    | none => simpa using Or.inl (hfirst.mp hpicture)
    | some picture =>
        have hrows : ¬ (b.view.visibleSize ≠ 0 ∧ BugTable.columnsWidth? b.columns = none) :=
          fun h => by rw [hfirst.mpr h] at hpicture; cases hpicture
        rw [or_iff_right hrows]
        exact ⟨fun h => h picture rfl, fun h _ _ => h⟩
  · rw [if_neg hlarge]
    exact iff_of_false (by simp) (fun h => hlarge h.1)

end DefectCatalog.Browser
