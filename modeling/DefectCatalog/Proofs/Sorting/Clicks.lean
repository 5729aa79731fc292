import DefectCatalog.Sorting
import Mathlib.Data.Bool.Basic
import Mathlib.Data.List.Chain
import Mathlib.Logic.Function.Iterate

/-!
# Clicks on columns

A click compares its column with the one that the list is sorted by, not with the
one that was clicked before.  Naming the same column is an equivalence, and a click
leaves the list sorted by the column that was clicked (`sameColumn_fields_clickAll`),
so the two agree.  After a run of clicks, the fields are those of the last click
that changed the column, although the fields of later clicks may differ from them,
and every click behind it has turned the direction once (`clicked_clickAll`).
-/

namespace DefectCatalog.Sorting

/-! ## Columns -/

/-- Two lists of fields name the same column if they are equal or both start with
the project. -/
def SameColumn (fields others : List String) : Prop :=
  fields = others ∨ (fields.head? = some "project" ∧ others.head? = some "project")

variable {fields others : List String}

/-- The test decides whether two lists of fields name the same column. -/
theorem sameColumn_iff : sameColumn fields others ↔ SameColumn fields others := by
  simp [sameColumn, SameColumn]

/-- The fields of one column begin alike. -/
theorem SameColumn.head?_eq (h : SameColumn fields others) : fields.head? = others.head? := by
  rcases h with heq | ⟨hfields, hothers⟩
  · rw [heq]
  · rw [hfields, hothers]

/-- To belong to one column is an equivalence. -/
theorem equivalence_sameColumn : Equivalence SameColumn where
  refl _ := Or.inl rfl
  symm h := h.imp Eq.symm And.symm
  trans := by
    intro a b c hab hbc
    rcases hab with rfl | ⟨ha, hb⟩
    · exact hbc
    · exact Or.inr ⟨ha, hbc.head?_eq ▸ hb⟩

/-! ## One click -/

section Click

variable {s : Sorting}

/-- A click on the current column turns the direction and keeps the fields. -/
theorem click_of_same (h : SameColumn s.fields fields) :
    s.click fields = ⟨s.fields, !s.reverse⟩ := by
  rw [click, if_pos (sameColumn_iff.mpr (equivalence_sameColumn.symm h))]

/-- A click on another column starts it ascending. -/
theorem click_of_not_same (h : ¬ SameColumn s.fields fields) :
    s.click fields = ⟨fields, false⟩ := by
  have hother : ¬ sameColumn fields s.fields := by
    intro hsame
    exact h (equivalence_sameColumn.symm (sameColumn_iff.mp hsame))
  rw [click, if_neg hother]

/-- After a click the list is sorted by the column that was clicked. -/
theorem sameColumn_fields_click (s : Sorting) (fields : List String) :
    SameColumn (s.click fields).fields fields := by
  by_cases h : SameColumn s.fields fields
  · rw [click_of_same h]
    exact h
  · rw [click_of_not_same h]
    exact Or.inl rfl

/-- A click sorts by the first field of its column. -/
theorem primary?_click (s : Sorting) (fields : List String) :
    (s.click fields).primary? = fields.head? :=
  (sameColumn_fields_click s fields).head?_eq

/-- A click on a column always changes the sort. -/
theorem click_ne (s : Sorting) (fields : List String) : s.click fields ≠ s := by
  intro heq
  by_cases h : SameColumn s.fields fields
  · rw [click_of_same h] at heq
    have hreverse : (!s.reverse) = s.reverse := congrArg reverse heq
    exact Bool.not_ne_self _ hreverse
  · rw [click_of_not_same h] at heq
    have hfields : fields = s.fields := congrArg Sorting.fields heq
    exact h (Or.inl hfields.symm)

end Click

/-! ## A run of clicks -/

/-- Clicks one after the other. -/
def clickAll (s : Sorting) (clicks : List (List String)) : Sorting :=
  clicks.foldl click s

/-- No click changes the column: each is on the column of the one before it, the
first on that of the fields at the start. -/
def NoChange (start : List String) (clicks : List (List String)) : Prop :=
  (start :: clicks).IsChain SameColumn

/-- The last click that changes the column, with the clicks behind it: it is on
another column than the one before it, and they are not. -/
def LastChange (start : List String) (clicks : List (List String)) (clicked : List String)
    (after : List (List String)) : Prop :=
  ∃ before, clicks = before ++ clicked :: after ∧ ¬ SameColumn (before.getLastD start) clicked ∧
    NoChange clicked after

/-- What a run of clicks makes of a sort. -/
structure Clicked (s : Sorting) (clicks : List (List String)) : Prop where
  /-- The field that is compared is the first one of the last click. -/
  primary?_eq : ∀ last, clicks.getLast? = some last → (s.clickAll clicks).primary? = last.head?
  /-- If no click changes the column, the fields stay, and every click turns the direction. -/
  noChange : NoChange s.fields clicks →
    s.clickAll clicks = ⟨s.fields, not^[clicks.length] s.reverse⟩
  /-- Else the fields are those of the last click that does, and every click behind it
  turns the direction, which was ascending then. -/
  lastChange : ∀ clicked after, LastChange s.fields clicks clicked after →
    s.clickAll clicks = ⟨clicked, not^[after.length] false⟩
  /-- There is no other run. -/
  noChange_or_lastChange : NoChange s.fields clicks ∨
    ∃ clicked after, LastChange s.fields clicks clicked after

/-- Further clicks go on from the sort that the others led to. -/
theorem clickAll_append (s : Sorting) (before after : List (List String)) :
    s.clickAll (before ++ after) = (s.clickAll before).clickAll after :=
  List.foldl_append

/-- **The sort follows the clicks**: its fields name the column that was clicked last. -/
theorem sameColumn_fields_clickAll (s : Sorting) (clicks : List (List String)) :
    SameColumn (s.clickAll clicks).fields (clicks.getLastD s.fields) := by
  rcases List.eq_nil_or_concat clicks with rfl | ⟨before, last, rfl⟩
  · exact Or.inl rfl
  · rw [List.concat_eq_append, clickAll_append, List.getLastD_concat]
    exact sameColumn_fields_click _ last

/-- Clicks on the current column leave the fields alone and turn the direction. -/
theorem clickAll_of_noChange {s : Sorting} {start : List String} {clicks : List (List String)}
    (hstart : SameColumn s.fields start) (h : NoChange start clicks) :
    s.clickAll clicks = ⟨s.fields, not^[clicks.length] s.reverse⟩ := by
  induction clicks generalizing s start with
  | nil => rfl
  | cons clicked clicks ih =>
      obtain ⟨hclicked, hrest⟩ := List.isChain_cons_cons.mp h
      have hsame : SameColumn s.fields clicked := equivalence_sameColumn.trans hstart hclicked
      have hclick : s.clickAll (clicked :: clicks) =
          (⟨s.fields, !s.reverse⟩ : Sorting).clickAll clicks := by
        rw [← click_of_same hsame]
        rfl
      have hrun : (⟨s.fields, !s.reverse⟩ : Sorting).clickAll clicks =
          ⟨s.fields, not^[clicks.length] !s.reverse⟩ := @ih ⟨s.fields, !s.reverse⟩ clicked hsame hrest
      rw [hclick, hrun]
      rfl

/-- A click on another column than the one before it is one on another column than
the current one, so it forgets what was before. -/
theorem clickAll_of_lastChange {s : Sorting} {clicks after : List (List String)}
    {clicked : List String} (h : LastChange s.fields clicks clicked after) :
    s.clickAll clicks = ⟨clicked, not^[after.length] false⟩ := by
  obtain ⟨before, rfl, hchange, hafter⟩ := h
  have hother : ¬ SameColumn (s.clickAll before).fields clicked := by
    intro hsame
    have hbefore := sameColumn_fields_clickAll s before
    exact hchange (equivalence_sameColumn.trans (equivalence_sameColumn.symm hbefore) hsame)
  have hclick : s.clickAll (before ++ clicked :: after) =
      (⟨clicked, false⟩ : Sorting).clickAll after := by
    rw [clickAll_append, ← click_of_not_same hother]
    rfl
  rw [hclick, clickAll_of_noChange (equivalence_sameColumn.refl clicked) hafter]

/-- All clicks were on one column, or there was a last change. -/
theorem noChange_or_lastChange (start : List String) (clicks : List (List String)) :
    NoChange start clicks ∨ ∃ clicked after, LastChange start clicks clicked after := by
  induction clicks generalizing start with
  | nil => exact Or.inl (List.isChain_singleton start)
  | cons clicked clicks ih =>
      rcases ih clicked with hno | ⟨last, after, before, rfl, hchange, hafter⟩
      · by_cases hsame : SameColumn start clicked
        · exact Or.inl (List.isChain_cons_cons.mpr ⟨hsame, hno⟩)
        · exact Or.inr ⟨clicked, clicks, [], rfl, hsame, hno⟩
      · rw [← List.getLastD_cons] at hchange
        exact Or.inr ⟨last, after, clicked :: before, rfl, hchange, hafter⟩

/-- **What clicks on columns do to a sort**, whatever it was and whichever spellings
of a column are clicked. -/
theorem clicked_clickAll (s : Sorting) (clicks : List (List String)) : s.Clicked clicks where
  primary?_eq last hlast := by
    have hcolumn := sameColumn_fields_clickAll s clicks
    rw [List.getLastD_eq_getLast?, hlast] at hcolumn
    exact hcolumn.head?_eq
  noChange h := clickAll_of_noChange (equivalence_sameColumn.refl s.fields) h
  lastChange _ _ h := clickAll_of_lastChange h
  noChange_or_lastChange := noChange_or_lastChange s.fields clicks

end DefectCatalog.Sorting
