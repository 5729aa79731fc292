import DefectCatalog.Proofs.Browser.SidebarClick
import DefectCatalog.Proofs.Text.Unicode

/-!
# Widths of the sidebar's lines

The label of an entry is cut to the cells beside the mark and the count, and then
padded to as many characters.  So its line is as wide as the sidebar exactly if the
label, as it is cut, takes a cell for each of these characters
(`measured_sidebarLines`): wide characters push the count over the border, and
characters of no width leave it short of its place.
-/

namespace DefectCatalog.Browser

open Screen

namespace Sidebar

/-- The count is printed in ASCII. -/
theorem isPlain_of_mem_suffix {n : Nat} {c : Char} (h : c ∈ (suffix n).toList) :
    Text.isPlain c := by
  rw [suffix, String.toList_append, List.mem_append] at h
  rcases h with hblank | hdigit
  · rw [List.mem_singleton.mp hblank]
    rfl
  · have hchars : (toString n).toList = Nat.toDigits 10 n := String.toList_ofList
    rw [hchars] at hdigit
    have hrange := Nat.isDigit_of_mem_toDigits (by decide) (by decide) hdigit
    rw [Char.isDigit, Bool.and_eq_true, decide_eq_true_eq, decide_eq_true_eq] at hrange
    have hlow : 48 ≤ c.toNat := hrange.1
    have hhigh : c.toNat ≤ 57 := hrange.2
    rw [Text.isPlain_iff]
    omega

end Sidebar

section

variable [Text.Measure]

namespace Sidebar

variable {p : Palette} {cells : Nat} {label : String} {s : EntryState}

/-- The cells beside the mark and the count, which the label is cut to. -/
def labelRoom (cells : Nat) (s : EntryState) : Nat :=
  cells - (6 + (suffix s.count).length)

/-- The label of an entry as it is cut. -/
def cutLabel (cells : Nat) (label : String) (s : EntryState) : String :=
  Text.truncateCells label (labelRoom cells s)

/-- The characters of the cut label, as far as there is room: the cells that the
padding takes it to have. -/
def countedCells (cells : Nat) (label : String) (s : EntryState) : Nat :=
  min (cutLabel cells label s).length (labelRoom cells s)

/-- How wide the line of an entry is in so many cells. -/
structure Measured (cells : Nat) (label : String) (s : EntryState) (l : Line) : Prop where
  /-- The count stands last on the line. -/
  count_last : ∃ before style, l.spans = before ++ [⟨suffix s.count, style⟩]
  /-- The line is off by what the padding is mistaken about the cells of the label. -/
  width_add : l.width + countedCells cells label s = cells + Text.width (cutLabel cells label s)
  /-- When the line is as wide as the sidebar. -/
  width_eq_iff : l.width = cells ↔
    Text.width (cutLabel cells label s) = countedCells cells label s
  /-- When the line does not fit, so that the end of the count is cut off. -/
  lt_width_iff : cells < l.width ↔
    countedCells cells label s < Text.width (cutLabel cells label s)
  /-- The line of a label of printed characters of ASCII is as wide as the sidebar. -/
  width_of_plain : (∀ c ∈ label.toList, Text.isPlain c) → l.width = cells

variable [Text.Measure.Lawful]

theorem width_suffix (n : Nat) : Text.width (suffix n) = (suffix n).length :=
  Text.width_plain fun _ => isPlain_of_mem_suffix

/-- The line of an entry: the mark, the padded label and the count. -/
theorem width_entryLine : (entryLine p cells label s).width =
    6 + (Text.width (Text.padRight (labelRoom cells s) (cutLabel cells label s)) +
      (suffix s.count).length) := by
  have hmark : Text.width (if s.active then "  [x] " else "  [ ] ") = 6 := by
    cases s.active
    · exact Text.width_plain (List.all_eq_true.mp (by decide))
    · exact Text.width_plain (List.all_eq_true.mp (by decide))
  rw [← width_suffix, ← hmark]
  rfl

/-- The line of an entry is as wide as it should be, but for what the padding is mistaken
about the cells of the label. -/
theorem width_entryLine_add (hroom : 6 + (suffix s.count).length ≤ cells) :
    (entryLine p cells label s).width + countedCells cells label s =
      cells + Text.width (cutLabel cells label s) := by
  have hcells : labelRoom cells s + (6 + (suffix s.count).length) = cells :=
    Nat.sub_add_cancel hroom
  rw [width_entryLine, Text.width_padRight, countedCells]
  omega

/-- A label of printed characters of ASCII is cut to as many cells as characters. -/
theorem width_cutLabel_of_plain (cells : Nat) (s : EntryState)
    (h : ∀ c ∈ label.toList, Text.isPlain c) :
    Text.width (cutLabel cells label s) = countedCells cells label s := by
  obtain ⟨hplain, hlength⟩ := Text.truncateCells_plain (labelRoom cells s) h
  rw [cutLabel, Text.width_plain hplain, countedCells, cutLabel, Nat.min_eq_left hlength]

theorem measured_entryLine (hroom : 6 + (suffix s.count).length ≤ cells) :
    Measured cells label s (entryLine p cells label s) := by
  have hwidth : (entryLine p cells label s).width + countedCells cells label s =
      cells + Text.width (cutLabel cells label s) := width_entryLine_add hroom
  refine ⟨⟨(entryLine p cells label s).spans.take 2, p.mutedStyle, rfl⟩, hwidth, ?_, ?_, ?_⟩
  · omega
  · omega
  · intro hplain
    have hlabel := width_cutLabel_of_plain cells s hplain
    omega

end Sidebar

/-- **How wide the lines of the sidebar are**: by every lawful measure, and for every taxonomy,
records, filters and area. -/
theorem measured_sidebarLines [Text.Measure.Lawful] (b : Browser) (a : Area) {k i : Nat}
    {e : Taxonomy.Entry}
    (hrow : (Sidebar.window b.sidebarRows (b.sidebarTop b.sidebarRows a) (a.height - 2))[k]? =
      some (.entry i e))
    (hroom : 6 + (Sidebar.suffix (b.entryState i e).count).length ≤ a.width - 2) :
    ∃ l, (b.sidebarLines b.sidebarRows a)[k]? = some l ∧
      Sidebar.Measured (a.width - 2) e.label.display (b.entryState i e) l := by
  refine ⟨Sidebar.rowLine b.palette (a.width - 2) b.entryState (.entry i e), ?_,
    Sidebar.measured_entryLine hroom⟩
  rw [sidebarLines, List.getElem?_map, hrow]
  rfl

end

/-- The label of an entry in Latin letters is measured, and its line is as wide as the
sidebar. -/
theorem measured_sidebarLines_of_run :
    let t := Taxonomy.empty.insert "Category" "Group" "loop" { name := "Loop repaired" }
    let b := (new { browse := { showWelcome := false } }).run [.loadedTaxonomy (.ok t)]
    let a : Area := { y := 1, width := 34, height := 12 }
    let e : Taxonomy.Entry := ⟨"Category", "Group", "loop", { name := "Loop repaired" }⟩
    (Sidebar.window b.sidebarRows (b.sidebarTop b.sidebarRows a) (a.height - 2))[2]? =
        some (.entry 0 e) ∧
      6 + (Sidebar.suffix (b.entryState 0 e).count).length ≤ a.width - 2 ∧
      ∃ l, (b.sidebarLines b.sidebarRows a)[2]? = some l ∧
        Sidebar.Measured (a.width - 2) e.label.display (b.entryState 0 e) l ∧ l.width = 32 := by
  intro t b a e
  have hrow : (Sidebar.window b.sidebarRows (b.sidebarTop b.sidebarRows a)
      (a.height - 2))[2]? = some (.entry 0 e) := by decide +kernel
  have hroom : 6 + (Sidebar.suffix (b.entryState 0 e).count).length ≤ a.width - 2 := by
    decide +kernel
  obtain ⟨l, hl, hmeasured⟩ := measured_sidebarLines b a hrow hroom
  have hplain : e.label.display.toList.all Text.isPlain := by decide +kernel
  exact ⟨hrow, hroom, l, hl, hmeasured, hmeasured.width_of_plain (List.all_eq_true.mp hplain)⟩

/-- **The count is pushed over the border by a label in wide characters.**  Six of them
take twelve cells and are padded as if they took six, so that the line has 38 cells
where there are 32. -/
theorem wide_label_pushes_count_out :
    let t := Taxonomy.empty.insert "Category" "Group" "wide" { name := "日本語日本語" }
    let b := (new { browse := { showWelcome := false } }).run [.loadedTaxonomy (.ok t)]
    let a : Area := { y := 1, width := 34, height := 12 }
    let e : Taxonomy.Entry := ⟨"Category", "Group", "wide", { name := "日本語日本語" }⟩
    (Sidebar.window b.sidebarRows (b.sidebarTop b.sidebarRows a) (a.height - 2))[2]? =
        some (.entry 0 e) ∧
      6 + (Sidebar.suffix (b.entryState 0 e).count).length ≤ a.width - 2 ∧
      ∃ l, (b.sidebarLines b.sidebarRows a)[2]? = some l ∧ l.width = 38 ∧
        a.width - 2 = 32 := by
  intro t b a e
  have hrow : (Sidebar.window b.sidebarRows (b.sidebarTop b.sidebarRows a)
      (a.height - 2))[2]? = some (.entry 0 e) := by decide +kernel
  have hroom : 6 + (Sidebar.suffix (b.entryState 0 e).count).length ≤ a.width - 2 := by
    decide +kernel
  have hline : (b.sidebarLines b.sidebarRows a)[2]? =
      some (Sidebar.rowLine b.palette (a.width - 2) b.entryState (.entry 0 e)) := by
    decide +kernel
  have hwidth : (Sidebar.rowLine b.palette (a.width - 2) b.entryState (.entry 0 e)).width =
      38 := by decide +kernel
  exact ⟨hrow, hroom, _, hline, hwidth, rfl⟩

end DefectCatalog.Browser
