import DefectCatalog.Document
import DefectCatalog.Proofs.Report.Projects
import DefectCatalog.Proofs.Report.Texts
import DefectCatalog.Proofs.Report.Tints

/-!
# Coloured reports

If no text holds an escape character, the lines of the reports do not either, and a
coloured report without its escape sequences is the plain one (`onlyTints_reports`).  Only
in the table of a listing are blanks dropped at the ends of lines, and there the lines are
the same unless a line feed is among the blanks that a tint keeps.
-/

namespace DefectCatalog

namespace Report

open Text (Lacks IsAsciiControl)

variable {k : Char} {l : Listing} {o : Options} {r : Record} {t : Taxonomy}

/-! ## The lines of reports -/

/-- Whether no fragment of a line holds a character. -/
def Line.Lacks (k : Char) (line : Line) : Prop :=
  ∀ f ∈ line.fragments, Text.Lacks k f.text

/-- A line of one plain text lacks what the text lacks. -/
theorem Line.lacks_ofText {s : String} : (Line.ofText s).Lacks k ↔ Text.Lacks k s := by
  simp [Line.Lacks, Line.ofText]

/-- A tint adds no character to the texts of a line. -/
theorem Line.lacks_ofTint {s : String} {tint : Tint} :
    (Line.ofTint s tint).Lacks k ↔ Text.Lacks k s := by
  simp [Line.Lacks, Line.ofTint]

/-- An empty line lacks every character. -/
theorem Line.lacks_blank : Line.blank.Lacks k := by
  simp [Line.Lacks, Line.blank]

/-- A rule consists of one character, which is no control character. -/
theorem lacks_rule (hk : IsAsciiControl k) (n : Nat) : Lacks k (rule n) :=
  Text.lacks_repeated (hk.ne (by decide)) n

/-- The strings of a listing. -/
def Listing.texts (l : Listing) : List String :=
  l.records.flatMap Record.texts ++ l.filters ++ l.sort.fields ++ l.taxonomy.texts

/-- The strings of the options. -/
def Options.texts (o : Options) : List String :=
  o.columns.flatMap fun c => c.title :: c.fields

/-- The texts of a listing are those of its records, its filters, its sort and its taxonomy. -/
theorem Listing.forall_mem_texts {p : String → Prop} : (∀ s ∈ l.texts, p s) ↔
    (∀ r ∈ l.records, ∀ s ∈ r.texts, p s) ∧ (∀ key ∈ l.filters, p key) ∧
      (∀ field ∈ l.sort.fields, p field) ∧ ∀ s ∈ l.taxonomy.texts, p s := by
  simp only [Listing.texts, List.forall_mem_append, List.forall_mem_flatMap, and_assoc]

/-- The description of a sort has the names of its fields and an arrow. -/
theorem lacks_describe (hk : IsAsciiControl k) {s : Sorting}
    (h : ∀ field ∈ s.fields, Lacks k field) : Lacks k s.describe := by
  have hfield : Lacks k (s.primary?.getD "-") := by
    cases hfields : s.fields with
    | nil => simpa [Sorting.primary?, hfields] using hk.lacks (s := "-") (by decide)
    | cons field rest => simpa [Sorting.primary?, hfields] using h field (by simp [hfields])
  have harrow : Lacks k (if s.reverse then "↓" else "↑") := by
    split <;> exact hk.lacks (by decide)
  have hblank : Lacks k " " := hk.lacks (by decide)
  exact Text.lacks_append.mpr ⟨Text.lacks_append.mpr ⟨hfield, hblank⟩, harrow⟩

/-! ### Classifications and patches -/

/-- The line of a flag has its label and its key. -/
theorem lacks_flagLine (hk : IsAsciiControl k) {f : Taxonomy.Flag} (hkey : Lacks k f.key)
    (hlabel : Lacks k f.label) : (flagLine f).Lacks k := by
  unfold flagLine
  split
  · simp (disch := decide) [Line.lacks_ofText, hk.lacks, hlabel]
  · simp (disch := decide) [Line.Lacks, hk.lacks, hlabel, hkey]

/-- The lines of a group of flags have its category and its flags. -/
theorem lacks_groupLines (hk : IsAsciiControl k) {g : Taxonomy.CategoryFlags}
    (hcategory : Lacks k g.category) (hflags : ∀ f ∈ g.flags, Lacks k f.key ∧ Lacks k f.label) :
    ∀ line ∈ groupLines g, line.Lacks k := by
  rw [groupLines, List.forall_mem_cons, List.forall_mem_map]
  refine ⟨?_, fun f hf => lacks_flagLine hk (hflags f hf).1 (hflags f hf).2⟩
  simp (disch := decide) [Line.Lacks, hk.lacks, hcategory]

/-- The flags of a record are its own texts, or texts of the taxonomy. -/
theorem lacks_flagsByCategory (hk : IsAsciiControl k) (ht : ∀ s ∈ t.texts, Lacks k s)
    (hr : ∀ s ∈ r.texts, Lacks k s) : ∀ line ∈ flagsByCategory t r, line.Lacks k := by
  unfold flagsByCategory
  split
  · simp (disch := decide) [Line.Lacks, hk.lacks]
  · intro line hline
    obtain ⟨g, hg, hline⟩ := List.mem_flatMap.mp hline
    obtain ⟨hcategory, hflags⟩ := Taxonomy.lacks_classify hk ht hr g hg
    exact lacks_groupLines hk hcategory hflags line hline

/-- The part on the patch has the lines of the patch. -/
theorem lacks_patchPart (hr : ∀ s ∈ r.texts, Lacks k s) (showPatch : Bool) :
    ∀ line ∈ patchPart showPatch r, line.Lacks k := by
  obtain ⟨-, -, hpatch⟩ := Record.lacks_identity hr
  unfold patchPart
  split
  · rw [List.forall_mem_cons, diffLines, List.forall_mem_map]
    exact ⟨Line.lacks_blank, fun s hs => Line.lacks_ofTint.mpr (hpatch.of_mem_lines hs)⟩
  · simp

/-! ### Summaries -/

namespace Summary

/-- A named value lacks what the name and the value lack. -/
theorem lacks_entry_iff (hk : IsAsciiControl k) {name : String} {value : List Fragment} :
    (entry name value).Lacks k ↔ Lacks k name ∧ ∀ f ∈ value, Lacks k f.text := by
  simp (disch := decide) [Line.Lacks, entry, hk.lacks]

/-- The line on the filters has their labels, which are texts of the taxonomy or keys. -/
theorem lacks_filterLines (hk : IsAsciiControl k) (ht : ∀ s ∈ l.taxonomy.texts, Lacks k s)
    (hfilters : ∀ key ∈ l.filters, Lacks k key) : ∀ line ∈ filterLines l, line.Lacks k := by
  have hmode : Lacks k l.mode.name := hk.lacks (by cases l.mode <;> decide)
  unfold filterLines
  split
  · simp (disch := decide) [lacks_entry_iff hk, hk.lacks]
  · rw [List.forall_mem_cons, List.forall_mem_map]
    refine ⟨?_, fun key hkey => Line.lacks_ofText.mpr ?_⟩
    · simp (disch := decide) [lacks_entry_iff hk, hk.lacks, hmode]
    · have hlabel := Taxonomy.lacks_label ht (hfilters key hkey)
      simp (disch := decide) [hk.lacks, hlabel]

/-- The lines on the projects have their names and numbers. -/
theorem lacks_projectLines (hk : IsAsciiControl k) (hl : ∀ r ∈ l.records, Lacks k r.project) :
    ∀ line ∈ projectLines l, line.Lacks k := by
  have hcounted : ∀ e ∈ l.perProject, Lacks k e.1 := fun e he => by
    obtain ⟨⟨r, hr, hproject⟩, -⟩ := Listing.mem_perProject.mp he
    exact hproject ▸ hl r hr
  unfold projectLines
  split
  · simp
  · rw [List.forall_mem_cons, List.forall_mem_cons, List.forall_mem_map]
    refine ⟨Line.lacks_blank, Line.lacks_ofTint.mpr (hk.lacks (by decide)), fun e he => ?_⟩
    have hproject := (Text.lacks_padRight (n := 16) (hk.ne (by decide))).mpr (hcounted e he)
    simp (disch := decide) [Line.Lacks, hk.lacks, hproject, Text.lacks_repr hk]

/-- **A summary of a listing has no control character of its own.** -/
theorem lacks_listing (hk : IsAsciiControl k) (hl : ∀ s ∈ l.texts, Lacks k s) :
    ∀ line ∈ listing l, line.Lacks k := by
  obtain ⟨hrecords, hfilters, hfields, htaxonomy⟩ := Listing.forall_mem_texts.mp hl
  have hsort := lacks_describe hk hfields
  have hprojects : ∀ r ∈ l.records, Lacks k r.project := fun r hr =>
    (Record.lacks_identity (hrecords r hr)).1
  unfold listing
  rw [List.forall_mem_append, List.forall_mem_append, List.forall_mem_append]
  refine ⟨⟨⟨?_, lacks_filterLines hk htaxonomy hfilters⟩, lacks_projectLines hk hprojects⟩, ?_⟩
  · simp (disch := decide +kernel) [Line.lacks_ofTint, lacks_entry_iff hk, hk.lacks, hsort,
      Text.lacks_repr hk]
  · split
    · simp (disch := decide) [Line.lacks_blank, Line.lacks_ofTint, hk.lacks]
    · simp

/-- **A summary of a bug has no control character of its own.** -/
theorem lacks_bug (hk : IsAsciiControl k) (hr : ∀ s ∈ r.texts, Lacks k s)
    (ht : ∀ s ∈ t.texts, Lacks k s) (o : Options) : ∀ line ∈ bug r t o, line.Lacks k := by
  obtain ⟨hproject, hcommit, -⟩ := Record.lacks_identity hr
  unfold bug
  rw [List.forall_mem_append, List.forall_mem_append]
  refine ⟨⟨?_, lacks_flagsByCategory hk ht hr⟩, lacks_patchPart hr o.showPatch⟩
  simp (disch := decide +kernel) [Line.lacks_ofTint, Line.lacks_blank, lacks_entry_iff hk, hk.lacks,
    hproject, hcommit, Text.lacks_repr hk]

end Summary

/-! ### Tables -/

namespace Table

/-- The row of a record has texts of the record, cut and padded. -/
theorem lacks_recordRow (hk : IsAsciiControl k) (hr : ∀ s ∈ r.texts, Lacks k s)
    (columns : List Column) : (recordRow columns r).Lacks k := by
  refine lacks_row (hk.ne (by decide)) fun f hf => ?_
  obtain ⟨c, -, rfl⟩ := List.mem_map.mp hf
  exact lacks_cell hk (Record.lacks_textOf hk hr c) _ _

/-- The line on what is not shown has numbers only. -/
theorem lacks_moreLine (hk : IsAsciiControl k) (l : Listing) (o : Options) :
    ∀ line ∈ moreLine l o, line.Lacks k := by
  unfold moreLine
  split
  · split
    · simp (disch := decide) [Line.lacks_ofTint, hk.lacks, Text.lacks_repr hk]
    · simp
  · simp

/-- **A table of a listing has no control character of its own**, but for the titles of its
columns. -/
theorem lacks_listing (hk : IsAsciiControl k) (hl : ∀ s ∈ l.texts, Lacks k s)
    (ho : ∀ s ∈ o.texts, Lacks k s) : ∀ line ∈ listing l o, line.Lacks k := by
  obtain ⟨hrecords, hfilters, hfields, -⟩ := Listing.forall_mem_texts.mp hl
  have htitles : ∀ c ∈ o.columns, Lacks k c.title := fun c hc =>
    ho _ (List.mem_flatMap.mpr ⟨c, hc, List.mem_cons_self⟩)
  have hshown : ∀ r ∈ l.shown o, (recordRow o.columns r).Lacks k := fun r hr => by
    rw [shown_eq_take] at hr
    exact lacks_recordRow hk (hrecords r (List.mem_of_mem_take hr)) o.columns
  have htotals := (lacks_totals_iff hk l).mpr ⟨lacks_describe hk hfields, hfilters⟩
  unfold listing
  rw [List.forall_mem_append, List.forall_mem_append, List.forall_mem_cons, List.forall_mem_cons,
    List.forall_mem_map]
  refine ⟨⟨⟨lacks_fragments_header hk htitles, Line.lacks_ofText.mpr (lacks_rule hk _), hshown⟩,
    lacks_moreLine hk l o⟩, ?_⟩
  simp [Line.lacks_blank, Line.lacks_ofText, htotals]

/-- A value in a cell is written as JSON, where control characters are escaped, or is a text
itself. -/
theorem lacks_memberText (hk : IsAsciiControl k) {v : Json.Value}
    (h : ∀ s ∈ v.strings, Lacks k s) : Lacks k (memberText v) := by
  unfold memberText
  split
  · next s => exact h s (List.mem_singleton_self s)
  · exact Json.Value.lacks_compact hk _

/-- The row of a member has its name and its value. -/
theorem lacks_member (hk : IsAsciiControl k) {name value : String} (hname : Lacks k name)
    (hvalue : Lacks k value) (tint : Tint) : (member name tint value).Lacks k := by
  have hcell := lacks_cell hk hname 24 tint
  simp (disch := decide) [Line.Lacks, member, hk.lacks, hcell, hvalue]

/-- **A table of a bug has no control character of its own.** -/
theorem lacks_bug (hk : IsAsciiControl k) (hr : ∀ s ∈ r.texts, Lacks k s)
    (ht : ∀ s ∈ t.texts, Lacks k s) (o : Options) : ∀ line ∈ bug r t o, line.Lacks k := by
  obtain ⟨hproject, hcommit, -⟩ := Record.lacks_identity hr
  have hfields : ∀ e ∈ r.fields.entries,
      (member (t.label e.1) .plain (memberText e.2)).Lacks k := fun e he => by
    obtain ⟨hkey, hvalue⟩ := Json.mem_memberStrings he
    have htexts : ∀ s ∈ Json.memberStrings r.fields.entries, Lacks k s := fun s hs =>
      hr s (Record.memberStrings_subset_texts hs)
    exact lacks_member hk (Taxonomy.lacks_label ht (htexts _ hkey))
      (lacks_memberText hk fun s hs => htexts s (hvalue hs)) .plain
  have hheader : Line.Lacks k
      ⟨[cell "FIELD" 24 .bold, ⟨" ", .plain⟩, ⟨"VALUE", .bold⟩], false⟩ := by
    simp (disch := decide +kernel) [Line.Lacks, hk.lacks]
  have hprojectLine := lacks_member hk (hk.lacks (by decide) : Lacks k "project") hproject .cyan
  have hcommitLine := lacks_member hk (hk.lacks (by decide) : Lacks k "commit") hcommit .cyan
  unfold bug
  rw [List.forall_mem_append, List.forall_mem_append, List.forall_mem_append,
    List.forall_mem_map, List.forall_mem_cons (a := Line.blank)]
  refine ⟨⟨⟨?_, hfields⟩, Line.lacks_blank, lacks_flagsByCategory hk ht hr⟩,
    lacks_patchPart hr o.showPatch⟩
  simp (disch := decide +kernel) [Line.lacks_ofText, hk.lacks, hheader, hprojectLine, hcommitLine]

end Table

/-! ## Trimmed lines -/

/-- The line of a flag keeps its blanks. -/
theorem trimmed_flagLine (f : Taxonomy.Flag) : (flagLine f).trimmed = false := by
  unfold flagLine
  split <;> rfl

/-- The lines of the flags keep their blanks. -/
theorem trimmed_of_mem_flagsByCategory :
    ∀ line ∈ flagsByCategory t r, line.trimmed = false := by
  unfold flagsByCategory
  split
  · simp
  · intro line hline
    obtain ⟨g, -, hline⟩ := List.mem_flatMap.mp hline
    rcases List.mem_cons.mp hline with rfl | hline
    · rfl
    · obtain ⟨f, -, rfl⟩ := List.mem_map.mp hline
      exact trimmed_flagLine f

/-- The lines of a patch keep their blanks. -/
theorem trimmed_of_mem_patchPart {showPatch : Bool} :
    ∀ line ∈ patchPart showPatch r, line.trimmed = false := by
  unfold patchPart
  split
  · simp [diffLines, Line.blank, Line.ofTint]
  · simp

/-- A summary of a listing keeps all blanks. -/
theorem Summary.trimmed_of_mem_listing : ∀ line ∈ Summary.listing l, line.trimmed = false := by
  have hfilters : ∀ line ∈ filterLines l, line.trimmed = false := by
    unfold filterLines
    split
    · simp [entry]
    · simp [entry, Line.ofText]
  have hprojects : ∀ line ∈ projectLines l, line.trimmed = false := by
    unfold projectLines
    split
    · simp
    · rw [List.forall_mem_cons, List.forall_mem_cons, List.forall_mem_map]
      exact ⟨rfl, rfl, fun _ _ => rfl⟩
  unfold Summary.listing
  rw [List.forall_mem_append, List.forall_mem_append, List.forall_mem_append]
  refine ⟨⟨⟨?_, hfilters⟩, hprojects⟩, ?_⟩
  · simp [entry, Line.ofTint]
  · split
    · simp [Line.blank, Line.ofTint]
    · simp

/-- A summary of a bug keeps all blanks. -/
theorem Summary.trimmed_of_mem_bug : ∀ line ∈ Summary.bug r t o, line.trimmed = false := by
  unfold Summary.bug
  rw [List.forall_mem_append, List.forall_mem_append]
  refine ⟨⟨?_, trimmed_of_mem_flagsByCategory⟩, trimmed_of_mem_patchPart⟩
  simp [entry, Line.ofTint, Line.blank]

/-- A table of a bug keeps all blanks. -/
theorem Table.trimmed_of_mem_bug : ∀ line ∈ Table.bug r t o, line.trimmed = false := by
  unfold Table.bug
  rw [List.forall_mem_append, List.forall_mem_append, List.forall_mem_append,
    List.forall_mem_map, List.forall_mem_cons (a := Line.blank)]
  refine ⟨⟨⟨?_, fun _ _ => rfl⟩, rfl, trimmed_of_mem_flagsByCategory⟩, trimmed_of_mem_patchPart⟩
  simp [member, Line.ofText]

/-- Only the titles and the rows of the table of a listing are trimmed. -/
theorem Table.mem_listing_cases {line : Line} (h : line ∈ Table.listing l o) :
    line = header o.columns ∨ (∃ r ∈ l.shown o, line = recordRow o.columns r) ∨
      line.trimmed = false := by
  have hmore : ∀ line ∈ moreLine l o, line.trimmed = false := by
    unfold moreLine
    split
    · split
      · simp [Line.ofTint]
      · simp
    · simp
  simp only [Table.listing, List.mem_append, List.mem_cons, List.mem_map, List.not_mem_nil,
    or_false] at h
  rcases h with ((rfl | rfl | ⟨r, hr, rfl⟩) | hline) | rfl | rfl
  · exact Or.inl rfl
  · exact Or.inr (Or.inr rfl)
  · exact Or.inr (Or.inl ⟨r, hr, rfl⟩)
  · exact Or.inr (Or.inr (hmore line hline))
  · exact Or.inr (Or.inr rfl)
  · exact Or.inr (Or.inr rfl)

/-- The kept blanks of a line are characters of its fragments. -/
theorem Line.Lacks.not_mem_keptBlanks {line : Line} (h : line.Lacks k) : k ∉ line.keptBlanks := by
  intro hmem
  unfold Line.keptBlanks at hmem
  split at hmem
  · obtain ⟨f, hf, hk⟩ := List.mem_flatMap.mp (List.mem_of_mem_drop hmem)
    exact h f ((List.rdropWhile_prefix _ line.fragments).subset hf) hk
  · cases hmem

/-- No line feed is kept where no title and no cell holds one. -/
theorem Table.feed_not_mem_keptBlanks (htitles : ∀ c ∈ o.columns, Lacks '\n' c.title)
    (hcells : ∀ r ∈ l.shown o, ∀ c ∈ o.columns, Lacks '\n' (shownText c r)) :
    ∀ line ∈ Table.listing l o, '\n' ∉ line.keptBlanks := by
  intro line hline
  rcases mem_listing_cases hline with rfl | ⟨r, hr, rfl⟩ | hplain
  · have hheader : (header o.columns).Lacks '\n' := lacks_fragments_header (by decide) htitles
    exact hheader.not_mem_keptBlanks
  · have hrow : (recordRow o.columns r).Lacks '\n' := lacks_row (by decide) fun f hf => by
      obtain ⟨c, hc, rfl⟩ := List.mem_map.mp hf
      exact (Text.lacks_padRight (by decide)).mpr (hcells r hr c hc)
    exact hrow.not_mem_keptBlanks
  · simp [Line.keptBlanks, hplain]

/-! ## Coloured and plain reports -/

/-- How coloured reports differ from plain ones. -/
structure OnlyTints (l : Listing) (r : Record) (t : Taxonomy) (o : Options) : Prop where
  /-- Without its tints a coloured summary is the plain one. -/
  summary_listing : untinted ((ReportKind.summary true).listing l o) =
    (ReportKind.summary false).listing l o
  summary_bug : untinted ((ReportKind.summary true).bug r t o) =
    (ReportKind.summary false).bug r t o
  /-- So is the table of one bug. -/
  table_bug : untinted ((ReportKind.table true).bug r t o) = (ReportKind.table false).bug r t o
  /-- The table of a listing has the same lines but for blanks at their ends, unless a line
  feed is among the blanks that a tint keeps. -/
  table_listing_iff : SameLines (untinted ((ReportKind.table true).listing l o))
      ((ReportKind.table false).listing l o) ↔
    ∀ line ∈ Table.listing l o, '\n' ∉ line.keptBlanks
  /-- So it has if no title and no cell holds a line feed. -/
  table_listing_of_cells : (∀ c ∈ o.columns, Lacks '\n' c.title) →
    (∀ r ∈ l.shown o, ∀ c ∈ o.columns, Lacks '\n' (Table.shownText c r)) →
      SameLines (untinted ((ReportKind.table true).listing l o))
        ((ReportKind.table false).listing l o)

/-- **Colours change no content**: of any listing, record, taxonomy and options without
escape characters. -/
theorem onlyTints_reports
    (htexts : ∀ s ∈ l.texts ++ o.texts ++ r.texts ++ t.texts, Lacks escape s) :
    OnlyTints l r t o := by
  simp only [List.forall_mem_append] at htexts
  obtain ⟨⟨⟨hl, ho⟩, hr⟩, ht⟩ := htexts
  have hk : IsAsciiControl escape := by decide
  have htable := sameLines_render_iff (Table.lacks_listing hk hl ho)
  refine ⟨?_, ?_, ?_, htable, fun htitles hcells =>
    htable.mpr (Table.feed_not_mem_keptBlanks htitles hcells)⟩
  · exact untinted_render_of_untrimmed (Summary.lacks_listing hk hl) Summary.trimmed_of_mem_listing
  · exact untinted_render_of_untrimmed (Summary.lacks_bug hk hr ht o) Summary.trimmed_of_mem_bug
  · exact untinted_render_of_untrimmed (Table.lacks_bug hk hr ht o) Table.trimmed_of_mem_bug

/-- A record with a described flag and a patch, in a list with the default columns. -/
theorem onlyTints_reports_of_loop :
    let r := ((Record.new "Closure" "12").setPatch "+ a\n- b\n").setField "loop" (.bool true)
    let t := Taxonomy.empty.insert "Actions" "Loops" "loop" { name := "Loop changed" }
    let l := Table.listingOf [r, Record.new "Lang" "3"]
    let o : Options := {}
    (∀ s ∈ l.texts ++ o.texts ++ r.texts ++ t.texts, Lacks escape s) ∧ OnlyTints l r t o ∧
      SameLines (untinted ((ReportKind.table true).listing l o))
        ((ReportKind.table false).listing l o) := by
  intro r t l o
  have htexts : ∀ s ∈ l.texts ++ o.texts ++ r.texts ++ t.texts, Lacks escape s := by
    decide +kernel
  have honly := onlyTints_reports htexts
  exact ⟨htexts, honly, honly.table_listing_of_cells (by decide +kernel) (by decide +kernel)⟩

/-- A bug list with one record without a project, whose patch has one line. -/
def unnamed : String :=
  "[\x7b\"project\":\"\",\"commit\":1,\"patch\":\"x\\n\"\x7d]"

/-- **A tint can keep the line feed at the end of a patch.**  In front of a project without a
name it is dropped with the other blanks at the end of the row; the tint of the project's cell
keeps it, and the coloured table has a line more. -/
theorem tinted_cell_keeps_line_feed :
    let r := (Record.new "" "1").setPatch "x\n"
    let l := Table.listingOf [r]
    let o : Options := { columns := Table.narrowColumns.reverse }
    readRecords unnamed = .ok [r] ∧ (∀ s ∈ l.texts ++ o.texts, Lacks escape s) ∧
      (∀ c ∈ o.columns, Lacks '\n' c.title) ∧ Lacks '\n' r.project ∧ Lacks '\n' r.commit ∧
      ¬ SameLines (untinted ((ReportKind.table true).listing l o))
        ((ReportKind.table false).listing l o) := by
  intro r l o
  exact ⟨rfl, by decide +kernel, by decide +kernel, by decide +kernel, by decide +kernel,
    by decide +kernel⟩

end Report

end DefectCatalog
