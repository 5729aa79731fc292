import DefectCatalog.Command.Labels
import DefectCatalog.Proofs.Taxonomy.Headings

/-!
# The text of the labels

The labels command prints the entries of the categories that were asked for.  Choosing
categories keeps entries together, so the chosen ones fall into sections as well.  The
loop that prints them writes what the outline of a sidebar would be as text
(`flatMap_rowLines_outline`), so the text is these sections with an empty line between any
two (`Printed`).  Sidebar and text group alike: in both every entry stands under its
category and its group, and each of these has one heading (`headed_sidebar_and_text`).
-/

namespace DefectCatalog.Command.Labels

open Taxonomy (Entry Section Sectioned Headed outline outlineFrom entryRows groupRows sectionRows)

variable {width : Nat} {count : String → Option Nat}

/-- The lines of a section: its category, and each of its groups with the entries below. -/
def sectionLines (width : Nat) (count : String → Option Nat) (s : Section) : List String :=
  (s.category ++ ":") :: s.groups.flatMap fun group =>
    ("  " ++ group.1 ++ ":") :: group.2.map (entryText width count)

/-- The entries that a choice of a category leaves: all of them, or those whose category
is the one named, whatever the case of its ASCII letters. -/
structure Selected (category : Option String) (es chosen : List Entry) : Prop where
  all : category = none → chosen = es
  /-- The chosen entries keep their order, -/
  sublist : chosen.Sublist es
  /-- and an entry is chosen exactly if it is of the category. -/
  filter_eq : ∀ name, category = some name →
    chosen = es.filter fun e => e.category.map Char.toLower = name.map Char.toLower

/-- A text prints entries by the sections that they fall into. -/
structure Printed (es : List Entry) (count : String → Option Nat) (text : String)
    (ss : List Section) : Prop where
  sectioned : Sectioned es ss
  /-- Line by line, the sections are the entries under their headings, each of which is
  written once. -/
  headed : Headed es (sectionRows 0 ss)
  /-- The text has these lines, and an empty one between two sections. -/
  text_eq : text = Text.joined "\n" ([""].intercalate (ss.map (sectionLines (keyWidth es) count)))

/-- The choice of a category leaves the entries of the category. -/
theorem selected_select (category : Option String) (es : List Entry) :
    Selected category es (select category es) where
  all h := by rw [h, select]
  sublist := by
    cases category with
    | none => exact List.Sublist.refl es
    | some name => exact List.filter_sublist
  filter_eq name h := by
    rw [h]
    exact List.filter_congr fun e _ => rfl

/-- The entries of the chosen categories fall into sections. -/
theorem exists_sectioned_select (category : Option String) (t : Taxonomy) :
    ∃ ss, Sectioned (select category t.entries) ss := by
  obtain ⟨ss, hss⟩ := Taxonomy.exists_sectioned t.categories.nodup
  cases category with
  | none => exact ⟨ss, hss⟩
  | some name => exact ⟨_, hss.filter fun c => Text.sameIgnoringCase c name⟩

/-! ## The loop against the outline -/

/-- A line of the outline as text; every category stands off by an empty line. -/
def rowLines (width : Nat) (count : String → Option Nat) : OutlineRow → List String
  | .category name => ["", name ++ ":"]
  | .group name => ["  " ++ name ++ ":"]
  | .entry _ e => [entryText width count e]

/-- After an entry the loop goes on as the outline does. -/
theorem textLines_some (place : String × String) (position : Nat) (es : List Entry) :
    textLines width count (some place) es =
      (outlineFrom (some place) position es).flatMap (rowLines width count) := by
  induction es generalizing place position with
  | nil => rfl
  | cons e es ih =>
      rw [textLines, outlineFrom, List.flatMap_append, ih _ (position + 1), headings,
        Taxonomy.outlineStep]
      by_cases hplace : place = (e.category, e.group)
      · simp [hplace, rowLines]
      · by_cases hcategory : place.1 = e.category <;> simp [hplace, hcategory, rowLines]

/-- The outline as text begins with an empty line, which the loop leaves out. -/
theorem flatMap_rowLines_outline {es : List Entry} (h : es ≠ []) :
    (outline es).flatMap (rowLines width count) = "" :: textLines width count none es := by
  cases es with
  | nil => exact absurd rfl h
  | cons e es =>
      rw [outline, outlineFrom, List.flatMap_append, ← textLines_some, textLines, headings,
        Taxonomy.outlineStep]
      simp [rowLines]

theorem flatMap_rowLines_entryRows (position : Nat) (es : List Entry) :
    (entryRows position es).flatMap (rowLines width count) = es.map (entryText width count) := by
  induction es generalizing position with
  | nil => rfl
  | cons e es ih =>
      rw [Taxonomy.entryRows_cons, List.flatMap_cons, ih]
      rfl

theorem flatMap_rowLines_groupRows (position : Nat) (groups : List (String × List Entry)) :
    (groupRows position groups).flatMap (rowLines width count) =
      groups.flatMap fun group =>
        ("  " ++ group.1 ++ ":") :: group.2.map (entryText width count) := by
  induction groups generalizing position with
  | nil => rfl
  | cons group groups ih =>
      rw [groupRows, List.flatMap_cons, List.flatMap_append, flatMap_rowLines_entryRows, ih]
      rfl

theorem flatMap_rowLines_sectionRows (position : Nat) (ss : List Section) :
    (sectionRows position ss).flatMap (rowLines width count) =
      ss.flatMap fun s => "" :: sectionLines width count s := by
  induction ss generalizing position with
  | nil => rfl
  | cons s ss ih =>
      rw [sectionRows, List.flatMap_cons, List.flatMap_append, flatMap_rowLines_groupRows, ih]
      rfl

theorem intercalate_cons {α : Type} (sep block : List α) (blocks : List (List α)) :
    sep.intercalate (block :: blocks) = block ++ blocks.flatMap (sep ++ ·) := by
  induction blocks generalizing block with
  | nil => simp [List.intercalate]
  | cons next blocks ih =>
      rw [List.intercalate_cons_cons, ih, List.flatMap_cons, List.append_assoc,
        List.append_assoc]

/-- The lines of entries that fall into sections are those of the sections, set apart. -/
theorem textLines_of_sectioned {es : List Entry} {ss : List Section} (h : Sectioned es ss) :
    textLines width count none es = [""].intercalate (ss.map (sectionLines width count)) := by
  cases ss with
  | nil =>
      rw [← h.entries_eq]
      rfl
  | cons s ss =>
      have hne : es ≠ [] := by
        rw [← h.entries_eq, List.flatMap_cons]
        exact List.append_ne_nil_of_left_ne_nil s.entries_ne_nil _
      have hrows : "" :: textLines width count none es =
          "" :: (sectionLines width count s ++
            ss.flatMap fun s => "" :: sectionLines width count s) := by
        rw [← flatMap_rowLines_outline hne, h.outline_eq, flatMap_rowLines_sectionRows,
          List.flatMap_cons, List.cons_append]
      rw [List.tail_eq_of_cons_eq hrows, List.map_cons, intercalate_cons, List.flatMap_map]
      rfl

/-- **Sidebar and text group alike.**  For every taxonomy the lines of the sidebar are its
entries under their headings, and so are those that are printed of the categories asked for:
all entries if none was, and else those of the category. -/
theorem headed_sidebar_and_text (t : Taxonomy) (category : Option String)
    (count : String → Option Nat) :
    Headed t.entries (outline t.entries) ∧
      Selected category t.entries (select category t.entries) ∧
      ∃ ss, Printed (select category t.entries) count
        (text (select category t.entries) count) ss := by
  obtain ⟨all, hall⟩ := Taxonomy.exists_sectioned t.categories.nodup
  obtain ⟨ss, hss⟩ := exists_sectioned_select category t
  refine ⟨hall.headed_outline, selected_select category t.entries, ss, hss,
    hss.outline_eq ▸ hss.headed_outline, ?_⟩
  rw [text, textLines_of_sectioned hss]

end DefectCatalog.Command.Labels
