import DefectCatalog.Browser.Cursor

/-!
# Cursors stay on the list

Every operation of a cursor leaves it on a row, or on zero if there is no row.
Selecting a row that exists and taking a length that still has the selected row
do exactly what they say; otherwise both stop at the end of the list.
-/

namespace DefectCatalog.Browser.Cursor

/-- The cursor is on a row, or rests on zero while there is none. -/
def Fits (c : Cursor) : Prop :=
  c.selected < c.total ∨ c.selected = 0 ∧ c.total = 0

variable {c : Cursor}

/-- Selecting leaves the cursor on a row. -/
theorem fits_select (c : Cursor) (row : Nat) : (c.select row).Fits := by
  unfold Fits select
  dsimp only
  omega

/-- A row that exists is selected. -/
theorem selected_select {row : Nat} (h : row < c.total) : (c.select row).selected = row := by
  unfold select
  dsimp only
  omega

/-- A new length leaves the cursor on a row. -/
theorem fits_resize (c : Cursor) (total : Nat) : (c.resize total).Fits :=
  fits_select _ _

/-- A row that the new length still has stays selected. -/
theorem selected_resize {total : Nat} (h : c.selected < total) :
    (c.resize total).selected = c.selected :=
  selected_select (c := { c with total }) h

/-- Taking the length that it has changes nothing. -/
theorem resize_total (h : c.Fits) : c.resize c.total = c := by
  have hselected : min c.selected (c.total - 1) = c.selected := by
    unfold Fits at h
    omega
  unfold resize select
  dsimp only
  rw [hselected]

/-- What moves a cursor within a list. -/
def Movement (f : Cursor → Cursor) : Prop :=
  ∀ c, (f c).Fits ∧ (f c).total = c.total

/-- Moving by rows, on or off the list, is a movement. -/
theorem movement_move (rows : Int) : Movement fun c => c.move rows :=
  fun _ => ⟨fits_select _ _, rfl⟩

/-- Moving to the first row is a movement. -/
theorem movement_first : Movement first := by
  intro c
  refine ⟨?_, rfl⟩
  unfold Fits first
  dsimp only
  omega

/-- Moving to the last row is a movement. -/
theorem movement_last : Movement last :=
  fun _ => ⟨fits_select _ _, rfl⟩

/-- Selecting a row is a movement. -/
theorem movement_select (row : Nat) : Movement fun c => c.select row :=
  fun _ => ⟨fits_select _ _, rfl⟩

end DefectCatalog.Browser.Cursor
