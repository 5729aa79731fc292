import DefectCatalog.Proofs.Browser.Frames
import DefectCatalog.Settings.Check

/-!
# The cells that columns ask for

Every column asks for its width and the space after it, and the table adds this up in
sixteen bits (`columnsWidth?`).  The sum is there exactly if the columns together ask for
less than 65536 cells (`columnsWidth?_eq_some_iff`); otherwise no frame with rows in its
table has a picture.  The check of the settings does not prevent this: of a width it asks
only that it is not zero (`faults_widened_eq_nil_iff`).
-/

namespace DefectCatalog

/-! ## What is checked of a width -/

namespace Settings

/-- The settings with the widths of the columns as `width` gives them. -/
def widened (s : Settings) (width : Column → UInt16) : Settings :=
  { s with
    browse := { s.browse with
      columns := s.browse.columns.map fun c => { c with width := width c } } }

variable {s : Settings} {exists? : String → Bool}

theorem columnFaults_eq_nil_iff {position : Nat} {c : Column} :
    columnFaults position c = [] ↔ isBlankText c.field = false ∧ c.width ≠ 0 := by
  simp only [columnFaults, List.append_eq_nil_iff, ite_eq_right_iff, List.cons_ne_nil, imp_false,
    Bool.not_eq_true]

/-- Columns have no faults exactly if each of them has none. -/
theorem columns_faultless_iff {columns : List Column} :
    (columns.zipIdx.flatMap fun c => columnFaults c.2 c.1) = [] ↔
      ∀ c ∈ columns, isBlankText c.field = false ∧ c.width ≠ 0 := by
  rw [List.flatMap_eq_nil_iff]
  constructor
  · intro h c hc
    obtain ⟨i, hi⟩ := List.getElem?_of_mem hc
    exact columnFaults_eq_nil_iff.mp (h (c, i) (List.mk_mem_zipIdx_iff_getElem?.mpr hi))
  · rintro h ⟨c, i⟩ hc
    have hmem : c ∈ columns := List.mem_of_getElem? (List.mk_mem_zipIdx_iff_getElem?.mp hc)
    exact columnFaults_eq_nil_iff.mpr (h c hmem)

/-- **What is checked of the widths**: that none of them is zero. -/
theorem faults_widened_eq_nil_iff (h : s.faults exists? = []) (width : Column → UInt16) :
    (s.widened width).faults exists? = [] ↔ ∀ c ∈ s.browse.columns, width c ≠ 0 := by
  simp only [faults, browseFaults, List.append_eq_nil_iff, columns_faultless_iff] at h
  obtain ⟨⟨⟨hdata, ⟨hsort, hsome⟩, hcolumns⟩, houtput⟩, hscreen⟩ := h
  have hsome' : (if (s.widened width).browse.columns.isEmpty then [SettingsFault.noColumn]
      else []) = [] := by
    rw [widened, List.isEmpty_map]
    exact hsome
  simp only [faults, browseFaults, List.append_eq_nil_iff, columns_faultless_iff]
  constructor
  · rintro ⟨⟨⟨-, -, hwidths⟩, -⟩, -⟩ c hc
    exact (hwidths _ (List.mem_map_of_mem hc)).2
  · intro hwidths
    refine ⟨⟨⟨hdata, ⟨hsort, hsome'⟩, ?_⟩, houtput⟩, hscreen⟩
    rintro _ hc'
    obtain ⟨c, hc, rfl⟩ := List.mem_map.mp hc'
    exact ⟨(hcolumns c hc).1, hwidths c hc⟩

end Settings

/-! ## The sum -/

namespace Browser.BugTable

/-- The cells that columns ask for, each with the space after it, added up without a bound. -/
def askedCells (columns : List Column) : Nat :=
  cellsOf (columns.map fun c => c.width.toNat + spacing.toNat)

variable {columns : List Column}

theorem askedCells_cons (c : Column) (columns : List Column) :
    askedCells (c :: columns) = c.width.toNat + spacing.toNat + askedCells columns :=
  rfl

/-- A sum that does not overflow is that of the numbers. -/
theorem sum?_eq_some_iff {m n k : UInt16} : sum? m n = some k ↔ k.toNat = m.toNat + n.toNat := by
  have hk : k.toNat < UInt16.size := k.toNat_lt
  have hadd : (m + n).toNat = (m.toNat + n.toNat) % UInt16.size := UInt16.toNat_add m n
  rw [sum?, Option.ite_none_right_eq_some, Option.some.injEq, ← UInt16.toNat_inj, hadd]
  constructor
  · intro h
    rw [← h.2, Nat.mod_eq_of_lt h.1]
  · intro h
    have hlt : m.toNat + n.toNat < UInt16.size := h ▸ hk
    exact ⟨hlt, by rw [Nat.mod_eq_of_lt hlt, h]⟩

/-- Whatever is below the bound is a word. -/
theorem exists_word {n : Nat} (h : n < UInt16.size) : ∃ w : UInt16, w.toNat = n :=
  ⟨.ofNat n, by rw [UInt16.toNat_ofNat']; exact Nat.mod_eq_of_lt h⟩

/-- A further column adds its width and the space after it. -/
theorem addColumn?_eq_some_iff {total k : UInt16} {c : Column} :
    addColumn? total c = some k ↔
      k.toNat = total.toNat + (c.width.toNat + spacing.toNat) := by
  rw [addColumn?, Option.bind_eq_bind, Option.bind_eq_some_iff]
  simp only [sum?_eq_some_iff]
  constructor
  · intro h
    obtain ⟨asked, hasked, hk⟩ := h
    rw [hk, hasked]
  · intro h
    have hk : k.toNat < UInt16.size := k.toNat_lt
    obtain ⟨asked, hasked⟩ := exists_word
      (show c.width.toNat + spacing.toNat < UInt16.size by omega)
    exact ⟨asked, hasked, hasked ▸ h⟩

/-- Adding up columns gives what they ask for, on top of what was there. -/
theorem foldlM_addColumn?_eq_some_iff {total k : UInt16} :
    columns.foldlM addColumn? total = some k ↔
      k.toNat = total.toNat + askedCells columns := by
  induction columns generalizing total with
  | nil =>
      have hnil : askedCells [] = 0 := rfl
      rw [List.foldlM_nil, hnil, Nat.add_zero, UInt16.toNat_inj, eq_comm]
      exact Option.some.injEq k total ▸ Iff.rfl
  | cons c columns ih =>
      rw [List.foldlM_cons, askedCells_cons, Option.bind_eq_bind, Option.bind_eq_some_iff]
      simp only [ih, addColumn?_eq_some_iff]
      constructor
      · intro h
        obtain ⟨next, hnext, hk⟩ := h
        rw [hk, hnext, Nat.add_assoc]
      · intro h
        -- the sum on the way is at most the last one
        have hk : k.toNat < UInt16.size := k.toNat_lt
        obtain ⟨next, hnext⟩ := exists_word
          (show total.toNat + (c.width.toNat + spacing.toNat) < UInt16.size by omega)
        exact ⟨next, hnext, by omega⟩

/-- **The sum is what the columns ask for**, if it is there. -/
theorem columnsWidth?_eq_some_iff {total : UInt16} :
    columnsWidth? columns = some total ↔ total.toNat = askedCells columns := by
  rw [columnsWidth?, foldlM_addColumn?_eq_some_iff]
  exact Eq.congr_right (Nat.zero_add _)

/-- **When the sum overflows.** -/
theorem columnsWidth?_eq_none_iff : columnsWidth? columns = none ↔ 65536 ≤ askedCells columns := by
  rw [Option.eq_none_iff_forall_ne_some, ← Nat.not_lt]
  simp only [ne_eq, columnsWidth?_eq_some_iff]
  constructor
  · intro h hlt
    obtain ⟨total, htotal⟩ := exists_word hlt
    exact h total htotal
  · intro h total htotal
    exact h (htotal ▸ total.toNat_lt)

theorem two_mul_length_le_askedCells (h : ∀ c ∈ columns, c.width ≠ 0) :
    2 * columns.length ≤ askedCells columns := by
  induction columns with
  | nil => exact Nat.zero_le _
  | cons c columns ih =>
      rw [List.forall_mem_cons] at h
      have hrest := ih h.2
      have hwidth : c.width.toNat ≠ 0 := fun hzero => h.1 (UInt16.toNat_inj.mp hzero)
      have hspace : spacing.toNat = 1 := rfl
      rw [askedCells_cons, List.length_cons]
      omega

/-- **Which columns overflow the sum**: for every settings that a check accepts, those
that together ask for 65536 cells or more.  Such columns are accepted as any others: a
check asks of a width only that it is not zero, so that a column asks for at least two
cells.  From such settings no frame that shows rows of the table has a picture, whatever
was done before; without them, a frame lacks one only for the sake of an open patch. -/
theorem overflows_iff_of_faultless {s : Settings} {exists? : String → Bool}
    (h : s.faults exists? = []) :
    (columnsWidth? s.browse.columns = none ↔ 65536 ≤ askedCells s.browse.columns) ∧
    (∀ total, columnsWidth? s.browse.columns = some total ↔
      total.toNat = askedCells s.browse.columns) ∧
    (∀ steps width height, let b := (Browser.new s).run steps
      (b.draw width height).1 = none ↔ Screen.isLargeEnough width height ∧
        (b.view.visibleSize ≠ 0 ∧ 65536 ≤ askedCells s.browse.columns ∨ b.OpenPatchOverflows)) ∧
    2 * s.browse.columns.length ≤ askedCells s.browse.columns ∧
    ∀ width, (s.widened width).faults exists? = [] ↔ ∀ c ∈ s.browse.columns, width c ≠ 0 := by
  have hwidths : ∀ c ∈ s.browse.columns, c.width ≠ 0 :=
    (Settings.faults_widened_eq_nil_iff h Column.width).mp (by simpa [Settings.widened] using h)
  refine ⟨columnsWidth?_eq_none_iff, fun _ => columnsWidth?_eq_some_iff, ?_,
    two_mul_length_le_askedCells hwidths, Settings.faults_widened_eq_nil_iff h⟩
  intro steps width height b
  have hcolumns : b.columns = s.browse.columns := Browser.columns_run _ steps
  rw [Browser.draw_eq_none_iff, hcolumns, columnsWidth?_eq_none_iff]

/-- Three columns of thirty thousand cells each are accepted, and ask for more than there
are: with a bug in the table, no frame has a picture. -/
theorem overflows_iff_of_threeWide :
    let columns : List Column := [⟨"Project", ["project"], 30000⟩, ⟨"Bug", ["commit"], 30000⟩,
      ⟨"Patch", ["patch"], 30000⟩]
    let s : Settings := { browse := { columns } }
    let b := (Browser.new s).run [.loadedRecords (.ok [Record.new "Lang" "1"])]
    s.faults (fun _ => true) = [] ∧ columnsWidth? columns = none ∧ (b.draw 100 15).1 = none := by
  intro columns s b
  have hvalid : s.faults (fun _ => true) = [] := by decide
  have hasked : 65536 ≤ askedCells columns := by decide
  obtain ⟨hover, -, hframe, -⟩ := overflows_iff_of_faultless hvalid
  have hrows : b.view.visibleSize ≠ 0 := by decide +kernel
  exact ⟨hvalid, hover.mpr hasked,
    (hframe _ 100 15).mpr ⟨by decide, Or.inl ⟨hrows, hasked⟩⟩⟩

/-- **An accepted column overflows the sum by itself**: its width and the space after it are
65536 cells, and a frame with a row has no picture. -/
theorem widest_column_overflows :
    let columns : List Column := [⟨"Project", ["project"], 65535⟩]
    let s : Settings := { browse := { columns } }
    let b := (Browser.new s).run [.loadedRecords (.ok [Record.new "A" "1"])]
    s.faults (fun _ => true) = [] ∧ sum? 65535 spacing = none ∧
      columnsWidth? columns = none ∧ (b.draw 100 15).1 = none := by
  intro columns s b
  have hover : columnsWidth? columns = none := by decide
  have hrows : b.view.visibleSize ≠ 0 := by decide +kernel
  have hcolumns : b.columns = columns := Browser.columns_run _ _
  refine ⟨by decide, by decide, hover, (b.draw_eq_none_iff 100 15).mpr ⟨by decide, Or.inl ?_⟩⟩
  exact ⟨hrows, hcolumns ▸ hover⟩

end Browser.BugTable

end DefectCatalog
