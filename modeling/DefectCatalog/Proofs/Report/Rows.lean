import DefectCatalog.Proofs.Text.Lacks
import DefectCatalog.Document
import DefectCatalog.Report
import Mathlib.Data.List.Forall2

/-!
# The rows of the table

A row holds the cells of a record one after the other with a space between any two, and
each cell is as long as its column is wide, so a cell stands where the widths before it
say (`rowText_append`).  Only the blanks at the end of a row are dropped.  A report is the
table of its listing exactly if they are spaces and no cell holds a line feed
(`isTable_iff`): a line feed in a cell, which is printed as it is, starts a new line.
-/

namespace DefectCatalog.Report.Table

open Text (Lacks)

variable {columns before after : List Column} {c : Column} {r : Record} {l : Listing}
  {o : Options}

/-! ## What a table is -/

/-- What a column shows of a record: the text of its field, cut to the width. -/
def shownText (c : Column) (r : Record) : String :=
  Text.truncateChars (c.textOf r) c.width.toNat

/-- The cell of a record in a column: what is shown, padded to the width. -/
def cellText (c : Column) (r : Record) : List Char :=
  (Text.padRight c.width.toNat (shownText c r)).toList

/-- Where a cell starts: each column before it takes its width and a space. -/
def cellStart (before : List Column) : Nat :=
  before.foldr (fun c n => c.width.toNat + 1 + n) 0

/-- Whether a line, padded to the width of all columns, holds the cells of a record where
they should be. -/
def HoldsCells (columns : List Column) (r : Record) (line : String) : Prop :=
  let padded := (Text.padRight (fullWidth columns) line).toList
  padded.length = fullWidth columns ∧
    ∀ before c after, columns = before ++ c :: after →
      (padded.drop (cellStart before)).take c.width.toNat = cellText c r

/-- How many records a table may show. -/
def limit (l : Listing) (o : Options) : Nat :=
  o.limit.getD l.records.length

/-- What tells of the records beyond the limit. -/
def moreTexts (l : Listing) (o : Options) : List String :=
  if limit l o < l.records.length then
    ["... and " ++ toString (l.records.length - limit l o) ++ " more bugs"]
  else []

/-- **A text that is the table of a listing**: the titles, a rule, a line with the cells of
each of the first records, one that tells of the others if there are any, an empty line and
the totals. -/
def IsTable (l : Listing) (o : Options) (text : String) : Prop :=
  ∃ rows, List.Forall₂ (HoldsCells o.columns) (l.records.take (limit l o)) rows ∧
    Text.parts '\n' text =
      (header o.columns).render false :: rule (fullWidth o.columns) ::
        (rows ++ (moreTexts l o ++ ["", totals l]))

/-- Whether trimming takes nothing but spaces off the end of a text. -/
def TrimsSpaces (s : List Char) : Prop :=
  ∃ n, s = Text.trimRight s ++ List.replicate n ' '

/-! ## The cells of a row -/

/-- The cells of a record with a space between any two. -/
def rowText : List Column → Record → List Char
  | [], _ => []
  | [c], r => cellText c r
  | c :: d :: columns, r => cellText c r ++ ' ' :: rowText (d :: columns) r

/-- A cell takes the width of its column. -/
theorem length_cellText : (cellText c r).length = c.width.toNat := by
  have hlength := Text.length_truncateChars_le (c.textOf r) c.width.toNat
  simp only [cellText, shownText, Text.padRight, Text.repeated, String.toList_append,
    String.toList_ofList, List.length_append, List.length_replicate, String.length_toList]
  omega

/-- Columns are a blank apart. -/
theorem fullWidth_cons_cons (c d : Column) (columns : List Column) :
    fullWidth (c :: d :: columns) = c.width.toNat + 1 + fullWidth (d :: columns) := by
  simp only [fullWidth, List.foldr_cons, List.length_cons]
  omega

/-- A row takes the widths of its columns with a blank between two. -/
theorem length_rowText : (rowText columns r).length = fullWidth columns := by
  induction columns with
  | nil => rfl
  | cons c columns ih =>
      cases columns with
      | nil => simp [rowText, length_cellText, fullWidth]
      | cons d columns =>
          rw [rowText, fullWidth_cons_cons, ← ih, List.length_append, length_cellText,
            List.length_cons]
          omega

/-- **Where a cell stands in its row.** -/
theorem rowText_append (before after : List Column) (c : Column) (r : Record) :
    ∃ lead trail, rowText (before ++ c :: after) r = lead ++ (cellText c r ++ trail) ∧
      lead.length = cellStart before := by
  induction before with
  | nil =>
      cases after with
      | nil => exact ⟨[], [], by rw [List.nil_append, List.nil_append, List.append_nil, rowText],
          rfl⟩
      | cons d after => exact ⟨[], ' ' :: rowText (d :: after) r,
          by rw [List.nil_append, List.nil_append, rowText], rfl⟩
  | cons b before ih =>
      obtain ⟨lead, trail, hrow, hlead⟩ := ih
      have hcons : rowText (b :: before ++ c :: after) r =
          cellText b r ++ ' ' :: rowText (before ++ c :: after) r := by
        cases before <;> rfl
      refine ⟨cellText b r ++ ' ' :: lead, trail, ?_, ?_⟩
      · rw [hcons, hrow]
        simp
      · rw [List.length_append, length_cellText, List.length_cons, hlead]
        simp only [cellStart, List.foldr_cons]
        omega

/-- **The cell of a column stands in its place**, whatever the other cells are. -/
theorem slice_rowText (before after : List Column) (c : Column) (r : Record) :
    ((rowText (before ++ c :: after) r).drop (cellStart before)).take c.width.toNat =
      cellText c r := by
  obtain ⟨lead, trail, hrow, hlead⟩ := rowText_append before after c r
  rw [hrow, List.drop_left' hlead, List.take_left' length_cellText]

/-- Between the cells there are only spaces. -/
theorem exists_cell_of_ne_space {i : Nat} {x : Char} (hx : (rowText columns r)[i]? = some x)
    (hspace : x ≠ ' ') : ∃ before c after, columns = before ++ c :: after ∧
      cellStart before ≤ i ∧ i < cellStart before + c.width.toNat := by
  induction columns generalizing i with
  | nil => simp [rowText] at hx
  | cons c columns ih =>
      by_cases hfirst : i < c.width.toNat
      · exact ⟨[], c, columns, rfl, Nat.zero_le i, by simpa [cellStart] using hfirst⟩
      · cases columns with
        | nil =>
            rw [rowText, List.getElem?_eq_none (by rw [length_cellText]; omega)] at hx
            cases hx
        | cons d columns =>
            rw [rowText, List.getElem?_append_right (by rw [length_cellText]; omega),
              length_cellText] at hx
            obtain hsep | ⟨j, hj⟩ : i - c.width.toNat = 0 ∨ ∃ j, i - c.width.toNat = j + 1 :=
              (i - c.width.toNat).eq_zero_or_eq_succ_pred.imp_right fun h => ⟨_, h⟩
            · rw [hsep, List.getElem?_cons_zero] at hx
              exact absurd (Option.some.inj hx).symm hspace
            · rw [hj, List.getElem?_cons_succ] at hx
              obtain ⟨before, e, after, hcolumns, hle, hlt⟩ := ih hx
              refine ⟨c :: before, e, after, by rw [hcolumns, List.cons_append], ?_, ?_⟩
              · simp only [cellStart, List.foldr_cons] at hle ⊢
                omega
              · simp only [cellStart, List.foldr_cons] at hlt ⊢
                omega

/-! ## The row as printed -/

/-- Without colours a fragment is its text. -/
theorem render_false (f : Fragment) : f.render false = f.text := by
  rw [Fragment.render]
  cases f.tint.code? <;> rfl

/-- The fragments of a row are its cells and the spaces. -/
theorem toList_join_recordRow (columns : List Column) (r : Record) :
    (String.join ((recordRow columns r).fragments.map (·.render false))).toList =
      rowText columns r := by
  simp only [recordRow, row, render_false]
  induction columns with
  | nil => rfl
  | cons c columns ih =>
      cases columns with
      | nil => simp [rowText, cellText, shownText, cell]
      | cons d columns =>
          rw [rowText, ← ih, List.map_cons, List.map_cons, List.intersperse_cons_cons,
            List.map_cons, List.map_cons, String.join_cons, String.join_cons]
          simp [cellText, shownText, cell]

/-- A row is printed without the blanks at its end. -/
theorem render_recordRow (columns : List Column) (r : Record) :
    (recordRow columns r).render false =
      Text.trimmedRight (String.ofList (rowText columns r)) := by
  rw [← toList_join_recordRow, String.ofList_toList]
  rfl

theorem prefix_trimRight (s : List Char) : Text.trimRight s <+: s :=
  List.rdropWhile_prefix Text.isBlank s

/-- A trimmed row is padded with spaces to the width of all columns. -/
theorem toList_padRight_trimmedRight {s : List Char} {n : Nat} :
    (Text.padRight n (Text.trimmedRight (String.ofList s))).toList =
      Text.trimRight s ++ List.replicate (n - (Text.trimRight s).length) ' ' := by
  simp [Text.padRight, Text.repeated, Text.trimmedRight]

/-- Texts with the same slice have the same characters in it. -/
theorem getElem?_eq_of_slice {s t : List Char} {start width i : Nat}
    (h : (s.drop start).take width = (t.drop start).take width) (hle : start ≤ i)
    (hlt : i < start + width) : s[i]? = t[i]? := by
  have hslice := congrArg (fun u => u[i - start]?) h
  have hin : i - start < width := by omega
  have hback : start + (i - start) = i := by omega
  simpa only [List.getElem?_take, if_pos hin, List.getElem?_drop, hback] using hslice

/-- If spaces in place of the end of a row leave every cell as it is, the end was spaces. -/
theorem eq_replicate_of_cells {kept rest : List Char} (hrow : kept ++ rest = rowText columns r)
    (hcells : ∀ before c after, columns = before ++ c :: after →
      ((kept ++ List.replicate rest.length ' ').drop (cellStart before)).take c.width.toNat =
        cellText c r) : rest = List.replicate rest.length ' ' := by
  refine List.eq_replicate_iff.mpr ⟨rfl, fun x hx => ?_⟩
  obtain ⟨j, hj, rfl⟩ := List.getElem_of_mem hx
  have hx : (kept ++ rest)[kept.length + j]? = some rest[j] := by
    rw [List.getElem?_append_right (Nat.le_add_right _ _), Nat.add_sub_cancel_left,
      List.getElem?_eq_getElem hj]
  rw [hrow] at hx
  -- a character other than a space is in a cell, and there are only spaces in its place
  by_contra hspace
  obtain ⟨before, c, after, rfl, hle, hlt⟩ := exists_cell_of_ne_space hx hspace
  have hsame := getElem?_eq_of_slice
    ((hcells before c after rfl).trans (slice_rowText before after c r).symm) hle hlt
  rw [hx, List.getElem?_append_right (Nat.le_add_right _ _), Nat.add_sub_cancel_left,
    List.getElem?_replicate_of_lt hj] at hsame
  exact hspace (Option.some.inj hsame).symm

/-- **A printed row holds its cells** exactly if only spaces were dropped. -/
theorem holdsCells_iff : HoldsCells columns r ((recordRow columns r).render false) ↔
    TrimsSpaces (rowText columns r) := by
  obtain ⟨rest, hrest⟩ := prefix_trimRight (rowText columns r)
  have hlength : fullWidth columns - (Text.trimRight (rowText columns r)).length =
      rest.length := by
    rw [← length_rowText (r := r), ← congrArg List.length hrest, List.length_append,
      Nat.add_sub_cancel_left]
  have hpadded : (Text.padRight (fullWidth columns) ((recordRow columns r).render false)).toList =
      Text.trimRight (rowText columns r) ++ List.replicate rest.length ' ' := by
    rw [render_recordRow, toList_padRight_trimmedRight, hlength]
  unfold HoldsCells
  simp only [hpadded]
  constructor
  · rintro ⟨-, hcells⟩
    have hspaces := eq_replicate_of_cells hrest hcells
    exact ⟨rest.length, by rw [← hspaces, hrest]⟩
  · rintro ⟨n, hn⟩
    have hrow : Text.trimRight (rowText columns r) ++ List.replicate rest.length ' ' =
        rowText columns r := by
      have hspaces := List.append_cancel_left (hrest.trans hn)
      rw [hspaces, List.length_replicate]
      exact hn.symm
    rw [hrow]
    refine ⟨length_rowText, ?_⟩
    rintro before c after rfl
    exact slice_rowText before after c r

/-! ## The lines of the report -/

/-- The lines that a table is printed from. -/
def tableLines (l : Listing) (o : Options) : List String :=
  (header o.columns).render false :: rule (fullWidth o.columns) ::
    ((l.records.take (limit l o)).map (fun r => (recordRow o.columns r).render false) ++
      (moreTexts l o ++ ["", totals l]))

/-- A table shows the first records up to its limit. -/
theorem shown_eq_take (l : Listing) (o : Options) : l.shown o = l.records.take (limit l o) := by
  unfold Listing.shown limit
  cases o.limit with
  | none => exact (List.take_length).symm
  | some n => rfl

/-- The line on what is not shown has no colours. -/
theorem map_moreLine (l : Listing) (o : Options) :
    (moreLine l o).map (·.render false) = moreTexts l o := by
  unfold moreLine moreTexts limit
  cases o.limit with
  | none => simp
  | some n =>
      rw [Option.getD_some]
      dsimp only
      split <;> rfl

/-- A table of a listing is its lines, joined by line feeds. -/
theorem listing_eq_joined (l : Listing) (o : Options) :
    (ReportKind.table false).listing l o = Text.joined "\n" (tableLines l o) := by
  have hlines : (listing l o).map (·.render false) = tableLines l o := by
    have hrule : (Line.ofText (rule (fullWidth o.columns))).render false =
        rule (fullWidth o.columns) := by simp [Line.ofText, Line.render, render_false]
    have htotals : (Line.ofText (totals l)).render false = totals l := by
      simp [Line.ofText, Line.render, render_false]
    have hblank : Line.blank.render false = "" := rfl
    simp only [listing, tableLines, List.map_append, List.map_cons, List.map_nil, List.map_map,
      map_moreLine, shown_eq_take, hrule, htotals, hblank, List.cons_append, List.append_assoc,
      Function.comp_def]
  rw [← hlines]
  rfl

/-- A report is a table if it falls into its lines and each row holds its cells. -/
theorem isTable_iff_lines : IsTable l o ((ReportKind.table false).listing l o) ↔
    (∀ line ∈ tableLines l o, Lacks '\n' line) ∧
      ∀ r ∈ l.records.take (limit l o),
        HoldsCells o.columns r ((recordRow o.columns r).render false) := by
  have hparts : Text.parts '\n' ((ReportKind.table false).listing l o) =
      (tableLines l o).flatMap (Text.parts '\n') := by
    have hfeed : ("\n").toList = ['\n'] := rfl
    have hne : tableLines l o ≠ [] := List.cons_ne_nil _ _
    rw [listing_eq_joined, Text.parts_joined hfeed hne]
  have hsplit : (∀ line ∈ tableLines l o, Lacks '\n' line) →
      Text.parts '\n' ((ReportKind.table false).listing l o) = tableLines l o :=
    fun hlacks => hparts.trans (Text.flatMap_parts_of_not_mem hlacks)
  unfold IsTable
  constructor
  · rintro ⟨rows, hrows, htext⟩
    have hlacks : ∀ line ∈ tableLines l o, Lacks '\n' line := by
      rw [hparts] at htext
      refine (Text.length_flatMap_parts (tableLines l o)).2.mp ?_
      rw [htext]
      simp [tableLines, ← hrows.length_eq]
    rw [hsplit hlacks] at htext
    have hends := (List.cons.inj (List.cons.inj htext).2).2
    rw [← List.append_cancel_right hends, List.forall₂_map_right_iff, List.forall₂_same] at hrows
    exact ⟨hlacks, hrows⟩
  · rintro ⟨hlacks, hrows⟩
    refine ⟨_, ?_, hsplit hlacks⟩
    rw [List.forall₂_map_right_iff, List.forall₂_same]
    exact hrows

/-! ## Line feeds -/

variable {k : Char}

/-- A row has the characters of its cells as they are shown, and blanks. -/
theorem lacks_rowText_iff (hk : k ≠ ' ') (columns : List Column) (r : Record) :
    k ∉ rowText columns r ↔ ∀ c ∈ columns, Lacks k (shownText c r) := by
  have hcell : ∀ c, k ∉ cellText c r ↔ Lacks k (shownText c r) := fun c =>
    Text.lacks_padRight hk
  induction columns with
  | nil => simp [rowText]
  | cons c columns ih =>
      cases columns with
      | nil => simp [rowText, hcell]
      | cons d columns =>
          have hcons : k ∉ rowText (c :: d :: columns) r ↔
              k ∉ cellText c r ∧ k ∉ rowText (d :: columns) r := by
            simp [rowText, hk]
          rw [List.forall_mem_cons (p := fun c => Lacks k (shownText c r))]
          exact hcons.trans (and_congr (hcell c) ih)

/-- If only spaces are dropped, a row is printed without a character if its cells are. -/
theorem lacks_recordRow_iff (hk : k ≠ ' ') (h : TrimsSpaces (rowText columns r)) :
    Lacks k ((recordRow columns r).render false) ↔
      ∀ c ∈ columns, Lacks k (shownText c r) := by
  obtain ⟨n, hn⟩ := h
  rw [← lacks_rowText_iff hk, render_recordRow, Text.trimmedRight, Text.lacks_ofList,
    String.toList_ofList]
  conv_rhs => rw [hn]
  have hspaces : k ∉ List.replicate n ' ' := fun hmem => hk (List.eq_of_mem_replicate hmem)
  simp [hspaces]

/-- What stands in an interspersed list is the separator or was there. -/
theorem eq_or_mem_of_mem_intersperse {α : Type} {x separator : α} {xs : List α}
    (h : x ∈ xs.intersperse separator) : x = separator ∨ x ∈ xs := by
  induction xs with
  | nil => exact Or.inr h
  | cons y ys ih =>
      cases ys with
      | nil => exact Or.inr h
      | cons z zs =>
          rw [List.intersperse_cons_cons, List.mem_cons, List.mem_cons] at h
          rcases h with rfl | rfl | h
          · exact Or.inr List.mem_cons_self
          · exact Or.inl rfl
          · exact (ih h).imp_right (List.mem_cons_of_mem y)

/-- A row has the characters of its cells, and blanks. -/
theorem lacks_row (hk : k ≠ ' ') {cells : List Fragment} (h : ∀ f ∈ cells, Lacks k f.text) :
    ∀ f ∈ (row cells).fragments, Lacks k f.text := by
  intro f hf
  rcases eq_or_mem_of_mem_intersperse hf with rfl | hf
  · simpa [Lacks] using hk
  · exact h f hf

/-- A cell has the characters of its text, and blanks or points. -/
theorem lacks_cell (hk : Text.IsAsciiControl k) {text : String} (h : Lacks k text) (width : Nat)
    (tint : Tint) : Lacks k (cell text width tint).text :=
  (Text.lacks_padRight (hk.ne (by decide))).mpr (h.truncateChars (hk.ne (by decide)) width)

/-- The titles bring no control character into their line. -/
theorem lacks_fragments_header (hk : Text.IsAsciiControl k)
    (h : ∀ c ∈ columns, Lacks k c.title) : ∀ f ∈ (header columns).fragments, Lacks k f.text := by
  refine lacks_row (hk.ne (by decide)) fun f hf => ?_
  obtain ⟨c, hc, rfl⟩ := List.mem_map.mp hf
  exact lacks_cell hk ((h c hc).upper hk) _ _

/-- The header has the characters of the titles. -/
theorem lacks_header (hk : Text.IsAsciiControl k) (h : ∀ c ∈ columns, Lacks k c.title) :
    Lacks k ((header columns).render false) := by
  refine Text.Lacks.trimmedRight (Text.lacks_join.mpr fun s hs => ?_)
  obtain ⟨f, hf, rfl⟩ := List.mem_map.mp hs
  rw [render_false]
  exact lacks_fragments_header hk h f hf

/-- The line on what is not shown has no control character. -/
theorem lacks_moreTexts (hk : Text.IsAsciiControl k) (l : Listing) (o : Options) :
    ∀ line ∈ moreTexts l o, Lacks k line := by
  have hstart : Lacks k "... and " := hk.lacks (by decide)
  have hend : Lacks k " more bugs" := hk.lacks (by decide)
  unfold moreTexts
  split
  · simp [hstart, hend, Text.lacks_repr hk]
  · simp

/-- The last line has the characters of the sort and of the filters. -/
theorem lacks_totals_iff (hk : Text.IsAsciiControl k) (l : Listing) :
    Lacks k (totals l) ↔ Lacks k l.sort.describe ∧ ∀ key ∈ l.filters, Lacks k key := by
  have hfilters : Lacks k (filterText l) ↔ ∀ key ∈ l.filters, Lacks k key := by
    have hnone : Lacks k "none" := hk.lacks (by decide)
    have hcomma : Lacks k ", " := hk.lacks (by decide)
    have hopen : Lacks k " (" := hk.lacks (by decide)
    have hclose : Lacks k ")" := hk.lacks (by decide)
    have hmode : Lacks k l.mode.name := hk.lacks (by cases l.mode <;> decide)
    unfold filterText
    split
    · next hempty => simp [List.isEmpty_iff.mp hempty, hnone]
    · simp [Text.lacks_joined hcomma, hopen, hclose, hmode]
  have htotal : Lacks k "Total: " := hk.lacks (by decide)
  have hof : Lacks k " of " := hk.lacks (by decide)
  have hsort : Lacks k " bugs | Sort: " := hk.lacks (by decide)
  have hlabel : Lacks k " | Filters: " := hk.lacks (by decide)
  simp [totals, hfilters, htotal, hof, hsort, hlabel, Text.lacks_repr hk]

/-- The lines of a report that may hold a line feed. -/
theorem lacks_tableLines_iff (htitles : ∀ c ∈ o.columns, Lacks '\n' c.title) :
    (∀ line ∈ tableLines l o, Lacks '\n' line) ↔
      Lacks '\n' (totals l) ∧
        ∀ r ∈ l.records.take (limit l o), Lacks '\n' ((recordRow o.columns r).render false) := by
  have hfeed : Text.IsAsciiControl '\n' := by decide
  have hheader := lacks_header hfeed htitles
  have hrule : Lacks '\n' (rule (fullWidth o.columns)) := Text.lacks_repeated (by decide) _
  have hmore := lacks_moreTexts hfeed l o
  have hempty : Lacks '\n' "" := by decide
  rw [tableLines, List.forall_mem_cons, List.forall_mem_cons, List.forall_mem_append,
    List.forall_mem_append, List.forall_mem_map, List.forall_mem_cons, List.forall_mem_singleton]
  constructor
  · rintro ⟨-, -, hrows, -, -, htotals⟩
    exact ⟨htotals, hrows⟩
  · rintro ⟨htotals, hrows⟩
    exact ⟨hheader, hrule, hrows, hmore, hempty, htotals⟩

/-- **When a report is the table of its listing**: for all records, filters and sortings, all
columns with titles on one line, and every limit. -/
theorem isTable_iff (htitles : ∀ c ∈ o.columns, Lacks '\n' c.title) :
    IsTable l o ((ReportKind.table false).listing l o) ↔
      Lacks '\n' l.sort.describe ∧ (∀ key ∈ l.filters, Lacks '\n' key) ∧
        ∀ r ∈ l.records.take (limit l o),
          (∀ c ∈ o.columns, Lacks '\n' (shownText c r)) ∧
            TrimsSpaces (rowText o.columns r) := by
  have hfeed : Text.IsAsciiControl '\n' := by decide
  have hspace : '\n' ≠ ' ' := by decide
  rw [isTable_iff_lines, lacks_tableLines_iff htitles, lacks_totals_iff hfeed]
  simp only [holdsCells_iff]
  constructor
  · rintro ⟨⟨⟨hsort, hfilters⟩, hlacks⟩, hspaces⟩
    exact ⟨hsort, hfilters, fun r hr =>
      ⟨(lacks_recordRow_iff hspace (hspaces r hr)).mp (hlacks r hr), hspaces r hr⟩⟩
  · rintro ⟨hsort, hfilters, hrows⟩
    exact ⟨⟨⟨hsort, hfilters⟩, fun r hr =>
      (lacks_recordRow_iff hspace (hrows r hr).2).mpr (hrows r hr).1⟩, fun r hr => (hrows r hr).2⟩

/-- A project and a patch in narrow columns. -/
def narrowColumns : List Column :=
  [⟨"Project", ["project"], 4⟩, ⟨"Patch", ["patch"], 8⟩]

/-- A listing of a few records under one filter. -/
def listingOf (records : List Record) : Listing where
  records
  total := records.length
  filters := ["loop"]
  mode := .all
  sort := .default
  taxonomy := .empty

/-- A table of one record of two, whose project is cut and whose patch is padded. -/
theorem isTable_iff_of_limit :
    let l := listingOf [(Record.new "Closure" "12").setPatch "- a", Record.new "Lang" "3"]
    let o : Options := { columns := narrowColumns, limit := some 1 }
    (∀ c ∈ o.columns, Lacks '\n' c.title) ∧
      IsTable l o ((ReportKind.table false).listing l o) := by
  intro l o
  have htitles : ∀ c ∈ o.columns, Lacks '\n' c.title := by decide +kernel
  refine ⟨htitles, (isTable_iff htitles).mpr ⟨by decide +kernel, by decide +kernel, ?_⟩⟩
  intro r hr
  rw [List.mem_singleton.mp hr]
  exact ⟨by decide +kernel, 5, by decide +kernel⟩

/-- A bug list with one record, whose patch has two lines. -/
def twoLines : String :=
  "[\x7b\"project\":\"A\",\"commit\":1,\"patch\":\"x\\ny\"\x7d]"

/-- **A line feed in a cell starts a line of its own**, so that the table has six lines where
the one record, the titles, the rule, the empty line and the totals are five. -/
theorem line_feed_splits_row :
    let r := (Record.new "A" "1").setPatch "x\ny"
    let o : Options := { columns := narrowColumns }
    readRecords twoLines = .ok [r] ∧ (∀ c ∈ o.columns, Lacks '\n' c.title) ∧
      Text.parts '\n' ((ReportKind.table false).listing (listingOf [r]) o) =
        ["P... PATCH", "─────────────", "A    x", "y", "",
          "Total: 1 of 1 bugs | Sort: project ↑ | Filters: loop (all)"] ∧
      ¬ IsTable (listingOf [r]) o ((ReportKind.table false).listing (listingOf [r]) o) := by
  intro r o
  have hrow : ¬ Lacks '\n' ((recordRow o.columns r).render false) := by decide +kernel
  refine ⟨rfl, by decide +kernel, by decide +kernel, fun htable => hrow ?_⟩
  exact (isTable_iff_lines.mp htable).1 _ (by simp [tableLines, listingOf, limit, o])

end DefectCatalog.Report.Table
