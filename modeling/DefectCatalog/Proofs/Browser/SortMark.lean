import DefectCatalog.Proofs.Browser.InStep
import DefectCatalog.Proofs.View.SortChoice
import DefectCatalog.Settings.Check

/-!
# The arrow in the header

The header marks one column with an arrow, and the list is sorted by the first
field of the sort.  These are two pieces of state.  A click on a column sets
both, and no other step sets either (`step_next`), so once the sort was changed
the marked column is the one that the list is sorted by.  At the start the mark
is a guess: the first column with the very fields of the settings, and else the
first column, whatever the list is sorted by.

`arrowTells_run_iff` says when the arrow tells the truth.
-/

namespace DefectCatalog

/-- Settings without faults have columns, and each of them has fields. -/
theorem Settings.columns_of_faultless {s : Settings} {exists? : String → Bool}
    (h : s.faults exists? = []) :
    s.browse.columns ≠ [] ∧ ∀ c ∈ s.browse.columns, c.fields ≠ [] := by
  simp only [faults, browseFaults, List.append_eq_nil_iff, List.flatMap_eq_nil_iff] at h
  obtain ⟨⟨⟨-, ⟨-, hsome⟩, hcolumns⟩, -⟩, -⟩ := h
  constructor
  · intro hnone
    simp [hnone] at hsome
  · intro c hc hfields
    obtain ⟨i, hi⟩ := List.getElem?_of_mem hc
    have hfaults := hcolumns (c, i) (List.mk_mem_zipIdx_iff_getElem?.mpr hi)
    have hblank : isBlankText c.field = true := by
      rw [Column.field, hfields]
      rfl
    simp [columnFaults, hblank] at hfaults

/-- A column with fields shows the first of them. -/
theorem Column.head?_fields {c : Column} (h : c.fields ≠ []) : c.fields.head? = some c.field := by
  obtain ⟨field, rest, hfields⟩ := List.exists_cons_of_ne_nil h
  rw [Column.field, hfields]
  rfl

namespace Browser

/-! ## The mark and the sort -/

/-- What marks a column in the header, and the sort that it stands for. -/
structure Mark where
  columns : List Column
  sortedColumn : Nat
  sort : Sorting

/-- The mark of the browser. -/
def mark (b : Browser) : Mark :=
  ⟨b.columns, b.sortedColumn, b.view.sort⟩

/-- What a step can do to the mark: nothing, or what a click on a column does. -/
inductive Mark.Next (m : Mark) : Mark → Prop
  | stay : Next m m
  | click {column : Nat} {c : Column} (h : m.columns[column]? = some c) :
      Next m ⟨m.columns, column, m.sort.click c.fields⟩

/-- The marked column is there, and shows the field that the list is sorted by. -/
def Mark.Tells (m : Mark) : Prop :=
  ∃ c, m.columns[m.sortedColumn]? = some c ∧ m.sort.primary? = some c.field

/-- Whether a step leaves the sort to the browser: the operations on the view have
no click on a column among them. -/
def Step.LeavesSort : Step → Prop
  | .view operations => ∀ op ∈ operations, op.LeavesSort
  | _ => True

variable {m m' : Mark}

/-- No step changes the columns. -/
theorem Mark.Next.columns_eq (h : m.Next m') : m'.columns = m.columns := by
  cases h with
  | stay => rfl
  | click hc => rfl

/-- A step that changes the mark changes the sort, and then the mark tells. -/
theorem Mark.Next.eq_or_tells (h : m.Next m') (hfields : ∀ c ∈ m.columns, c.fields ≠ []) :
    m' = m ∨ m'.sort ≠ m.sort ∧ m'.Tells := by
  cases h with
  | stay => exact Or.inl rfl
  | @click column c hc =>
      have hprimary : (m.sort.click c.fields).primary? = some c.field := by
        rw [Sorting.primary?_click]
        exact Column.head?_fields (hfields c (List.mem_of_getElem? hc))
      exact Or.inr ⟨m.sort.click_ne c.fields, c, hc, hprimary⟩

/-! ## One step -/

variable {b b₁ : Browser} {asked : View.Operation → Prop}

/-- Following the view leaves the mark where it is. -/
theorem mark_catchUp (b : Browser) : b.catchUp.mark = b.mark := by
  obtain ⟨_, _, _, heq⟩ := b.catchUp_eq_with
  rw [heq]
  rfl

/-- What is done aside leaves the mark where it is. -/
theorem Aside.mark_eq (h : Aside b b₁) : b₁.mark = b.mark := by
  rw [mark, h.view_eq, h.columns_eq, h.sortedColumn_eq, mark]

/-- A deed leaves the mark alone or clicks on a column, unless it asks the view for
a click behind the back of the browser. -/
theorem Deed.mark_next (hdeed : Deed asked b b₁) (hasked : ∀ op, asked op → op.LeavesSort) :
    b.mark.Next b₁.mark := by
  cases hdeed with
  | aside h =>
      rw [h.mark_eq]
      exact .stay
  | @operate b' h ops hops =>
      have hsort : (b'.view.performAll ops).sort = b'.view.sort :=
        View.sort_performAll fun op hop => hasked op (hops op hop)
      have hmark : (b'.actAll ops).mark = b'.mark := by
        rw [actAll, mark_catchUp, mark, hsort, mark]
      rw [hmark, h.mark_eq]
      exact .stay
  | @sort b' h column c hc =>
      have hmark : ({ b' with sortedColumn := column }.act (.sortBy c.fields)).mark =
          ⟨b'.mark.columns, column, b'.mark.sort.click c.fields⟩ := by
        rw [act, mark_catchUp]
        rfl
      rw [hmark, h.mark_eq]
      exact .click hc

/-- What a step asks for leaves the sort alone if the step does. -/
theorem Step.LeavesSort.of_asks {st : Step} (hst : st.LeavesSort) {op : View.Operation}
    (hop : st.Asks op) : op.LeavesSort := by
  cases st with
  | view operations => exact hst op hop
  | key | mouse | loadedRecords | loadedTaxonomy | enterAt | draw =>
      cases op with
      | sortBy fields => exact hop.elim
      | _ => trivial

/-- **A step leaves the mark alone, or clicks on a column.** -/
theorem step_next (b : Browser) {st : Step} (hst : st.LeavesSort) :
    b.mark.Next (b.step st).mark :=
  (b.step_deed st).mark_next fun _ hop => hst.of_asks hop

/-! ## Every run -/

/-- The sort was changed at some time in the course of steps. -/
def Resorts (b : Browser) (steps : List Step) : Prop :=
  ∃ before, before <+: steps ∧ (b.run before).view.sort ≠ b.view.sort

/-- Where a step keeps the sort, the list is resorted if it is so by the steps after it. -/
theorem resorts_cons_iff {st : Step} {steps : List Step} (h : (b.step st).view.sort = b.view.sort) :
    b.Resorts (st :: steps) ↔ (b.step st).Resorts steps := by
  unfold Resorts
  rw [h]
  constructor
  · rintro ⟨before, hbefore, hne⟩
    rcases List.prefix_cons_iff.mp hbefore with rfl | ⟨rest, rfl, hrest⟩
    · exact absurd rfl hne
    · exact ⟨rest, hrest, hne⟩
  · rintro ⟨before, hbefore, hne⟩
    exact ⟨st :: before, List.prefix_cons_inj st |>.mpr hbefore, hne⟩

/-- A mark that tells goes on telling. -/
theorem tells_run (hfields : ∀ c ∈ b.columns, c.fields ≠ []) {steps : List Step}
    (hsteps : ∀ st ∈ steps, st.LeavesSort) (htells : b.mark.Tells) :
    (b.run steps).mark.Tells := by
  induction steps generalizing b with
  | nil => exact htells
  | cons st steps ih =>
      rw [List.forall_mem_cons] at hsteps
      have hfields' : ∀ c ∈ (b.step st).columns, c.fields ≠ [] := by
        rwa [b.columns_step st]
      apply ih hfields' hsteps.2
      rcases (b.step_next hsteps.1).eq_or_tells hfields with heq | ⟨-, htells'⟩
      · rw [heq]
        exact htells
      · exact htells'

/-- **The mark of a run** is that of the start until the sort is changed, and tells
from then on. -/
theorem mark_run (hfields : ∀ c ∈ b.columns, c.fields ≠ []) {steps : List Step}
    (hsteps : ∀ st ∈ steps, st.LeavesSort) :
    ¬ b.Resorts steps ∧ (b.run steps).mark = b.mark ∨
      b.Resorts steps ∧ (b.run steps).mark.Tells := by
  -- from the front, for any browser: a first step that leaves the mark alone is skipped, and
  -- after one that does not the mark tells whatever follows
  induction steps generalizing b with
  | nil =>
      refine Or.inl ⟨?_, rfl⟩
      rintro ⟨before, hbefore, hne⟩
      rw [List.prefix_nil.mp hbefore] at hne
      exact hne rfl
  | cons st steps ih =>
      rw [List.forall_mem_cons] at hsteps
      have hfields' : ∀ c ∈ (b.step st).columns, c.fields ≠ [] := by
        rwa [b.columns_step st]
      rcases (b.step_next hsteps.1).eq_or_tells hfields with heq | ⟨hne, htells⟩
      · have hsort : (b.step st).view.sort = b.view.sort := congrArg Mark.sort heq
        rw [resorts_cons_iff hsort, ← heq]
        exact ih hfields' hsteps.2
      · have hresorts : b.Resorts (st :: steps) :=
          ⟨[st], List.prefix_cons_inj st |>.mpr List.nil_prefix, hne⟩
        exact Or.inr ⟨hresorts, tells_run hfields' hsteps.2 htells⟩

/-! ## What is seen -/

/-- Every deed leaves a settled view settled, also one that takes the events away. -/
theorem Deed.settled (hdeed : Deed asked b b₁) (h : b.view.Settled) : b₁.view.Settled := by
  have hoperate : ∀ (b' : Browser) ops, b'.view = b.view → (b'.actAll ops).view.Settled := by
    intro b' ops hview
    rw [actAll, view_catchUp, hview]
    exact (h.performAll ops).drain
  cases hdeed with
  | aside haside =>
      rw [haside.view_eq]
      exact h
  | operate haside hops => exact hoperate _ _ haside.view_eq
  | @sort b' haside column c hc =>
      exact hoperate { b' with sortedColumn := column } [.sortBy c.fields] haside.view_eq

/-- The view is settled after every run. -/
theorem settled_run (h : b.view.Settled) (steps : List Step) : (b.run steps).view.Settled := by
  induction steps generalizing b with
  | nil => exact h
  | cons st steps ih => exact ih ((b.step_deed st).settled h)

/-- The header marks a column, and no other. -/
structure MarksColumn (b : Browser) (c : Column) : Prop where
  marked : b.columns[b.sortedColumn]? = some c
  titles : ∀ i d, b.columns[i]? = some d → (b.tableTitles[i]?).map Prod.fst =
    some (if i = b.sortedColumn then d.title ++ " " ++ (if b.view.sort.reverse then "↓" else "↑")
      else d.title)

/-- The arrow tells the truth: the list is sorted by the field that the marked
column shows, and is in the order of its values. -/
def ArrowTells (b : Browser) : Prop :=
  ∃ c, b.MarksColumn c ∧ b.view.sort.primary? = some c.field ∧ b.view.OrderedOn c.field

/-- A column that is marked has the arrow in its title. -/
theorem marksColumn_of_getElem? {c : Column} (h : b.columns[b.sortedColumn]? = some c) :
    b.MarksColumn c := by
  refine ⟨h, ?_⟩
  intro i d hd
  have hlt : i < b.columns.length := (List.getElem?_eq_some_iff.mp hd).1
  rw [tableTitles, List.getElem?_append_left (by simpa using hlt), List.getElem?_map,
    List.getElem?_zipIdx, hd]
  by_cases hi : i = b.sortedColumn
  · simp [BugTable.title, hi]
  · simp [BugTable.title, hi]

/-- In a settled view the arrow tells the truth if the mark does. -/
theorem arrowTells_iff (h : b.view.Settled) : b.ArrowTells ↔ b.mark.Tells := by
  constructor
  · rintro ⟨c, hmarks, hprimary, -⟩
    exact ⟨c, hmarks.marked, hprimary⟩
  · rintro ⟨c, hc, hprimary⟩
    exact ⟨c, marksColumn_of_getElem? hc, hprimary, h.orderedOn hprimary⟩

end Browser

/-- The list starts sorted by all the fields of a column, or by the first field of
the first column. -/
def BrowseSettings.StartsOnColumn (s : BrowseSettings) : Prop :=
  (∃ c ∈ s.columns, c.fields = s.sort) ∨
    ∃ c, s.columns.head? = some c ∧ s.sort.head? = some c.field

namespace Browser

/-- At the start a column is marked, and the mark tells if the list starts sorted
by that column. -/
theorem mark_new (s : Settings) (hsome : s.browse.columns ≠ [])
    (hfields : ∀ c ∈ s.browse.columns, c.fields ≠ []) :
    (∃ c, (new s).columns[(new s).sortedColumn]? = some c) ∧
      ((new s).mark.Tells ↔ s.browse.StartsOnColumn) := by
  cases hfind : s.browse.columns.findIdx? fun c => c.fields == s.browse.sort with
  | some i =>
      obtain ⟨hlt, hsame, -⟩ := List.findIdx?_eq_some_iff_getElem.mp hfind
      have hsame : s.browse.columns[i].fields = s.browse.sort := by simpa using hsame
      have hmem : s.browse.columns[i] ∈ s.browse.columns := List.getElem_mem hlt
      have hmarked : (new s).columns[(new s).sortedColumn]? = some s.browse.columns[i] := by
        simp [new, hfind]
      have hprimary : (new s).view.sort.primary? = some s.browse.columns[i].field := by
        rw [← Column.head?_fields (hfields _ hmem), hsame]
        rfl
      exact ⟨⟨_, hmarked⟩, iff_of_true ⟨_, hmarked, hprimary⟩ (Or.inl ⟨_, hmem, hsame⟩)⟩
  | none =>
      have hother : ∀ c ∈ s.browse.columns, c.fields ≠ s.browse.sort := by
        simpa using List.findIdx?_eq_none_iff.mp hfind
      have hmarked : (new s).columns[(new s).sortedColumn]? = s.browse.columns.head? := by
        simp [new, hfind, List.head?_eq_getElem?]
      refine ⟨?_, ?_⟩
      · rw [hmarked]
        exact ⟨_, List.head?_eq_some_head hsome⟩
      · constructor
        · rintro ⟨c, hc, hprimary⟩
          exact Or.inr ⟨c, hmarked.symm.trans hc, hprimary⟩
        · rintro (⟨c, hmem, hsame⟩ | ⟨c, hc, hprimary⟩)
          · exact absurd hsame (hother c hmem)
          · exact ⟨c, hmarked.trans hc, hprimary⟩

/-- **When the arrow tells the truth.**  From all settings without faults and after
every run a column is marked; the list is sorted by what it shows exactly if it
started so, or the sort was changed meanwhile. -/
theorem arrowTells_run_iff (s : Settings) (exists? : String → Bool) (h : s.faults exists? = [])
    (steps : List Step) (hsteps : ∀ st ∈ steps, st.LeavesSort) :
    (∃ c, ((new s).run steps).MarksColumn c) ∧
      (((new s).run steps).ArrowTells ↔ s.browse.StartsOnColumn ∨ (new s).Resorts steps) := by
  obtain ⟨hsome, hfields⟩ := Settings.columns_of_faultless h
  obtain ⟨⟨c, hc⟩, hstart⟩ := mark_new s hsome hfields
  have hsettled : ((new s).run steps).view.Settled := settled_run (ready_new s).settled steps
  rw [arrowTells_iff hsettled]
  rcases mark_run (b := new s) hfields hsteps with ⟨hnever, hmark⟩ | ⟨hresorts, htells⟩
  · have hmarked : ((new s).run steps).mark.columns[((new s).run steps).mark.sortedColumn]? =
        some c := by
      rw [hmark]
      exact hc
    rw [hmark, hstart, or_iff_left hnever]
    exact ⟨⟨c, marksColumn_of_getElem? hmarked⟩, Iff.rfl⟩
  · obtain ⟨d, hd, -⟩ := id htells
    exact ⟨⟨d, marksColumn_of_getElem? hd⟩, iff_of_true htells (Or.inr hresorts)⟩

/-- A list that starts sorted by commit and project, which is no column of the
defaults, has a truthful arrow once the key for the next column was pressed. -/
theorem arrowTells_run_of_sortKey :
    let s : Settings := { browse := { sort := ["commit", "project"], showWelcome := false } }
    let steps := [.loadedRecords (.ok [.new "A" "2", .new "B" "1"]), .key { key := .char 's' }]
    s.faults (fun _ => true) = [] ∧ ¬ s.browse.StartsOnColumn ∧
      ((new s).run steps).ArrowTells := by
  intro s steps
  have hvalid : s.faults (fun _ => true) = [] := by decide
  have hstart : ¬ s.browse.StartsOnColumn := by
    rintro (⟨c, hc, hsame⟩ | ⟨c, hc, hprimary⟩)
    · revert c
      decide
    · obtain rfl := Option.some.inj hc
      revert hprimary
      decide
  have hsteps : ∀ st ∈ steps, st.LeavesSort := by simp [steps, Step.LeavesSort]
  have hresorts : (new s).Resorts steps := ⟨steps, List.prefix_rfl, by decide +kernel⟩
  exact ⟨hvalid, hstart, (arrowTells_run_iff s _ hvalid steps hsteps).2.mpr (Or.inr hresorts)⟩

/-- **The arrow can lie.**  A list that starts sorted by commit and project is
sorted by commit, while the arrow stands on the column of the projects. -/
theorem arrow_on_unsorted_column :
    let s : Settings := { browse := { sort := ["commit", "project"], showWelcome := false } }
    let b := (new s).run [.loadedRecords (.ok [.new "A" "2", .new "B" "1"])]
    s.faults (fun _ => true) = [] ∧ b.columns[b.sortedColumn]?.map Column.field = some "project" ∧
      (b.tableTitles.map Prod.fst).head? = some "Project ↑" ∧
      b.view.sort.primary? = some "commit" ∧ b.view.visible = [1, 0] ∧ ¬ b.ArrowTells := by
  intro s b
  have hvalid : s.faults (fun _ => true) = [] := by decide
  have hmarked : b.columns[b.sortedColumn]?.map Column.field = some "project" := by decide +kernel
  have htitle : (b.tableTitles.map Prod.fst).head? = some "Project ↑" := by decide +kernel
  have hprimary : b.view.sort.primary? = some "commit" := by decide +kernel
  have hvisible : b.view.visible = [1, 0] := by
    have hsettled : b.view.Settled := settled_run (ready_new s).settled _
    have hsorted : View.arrange b.view.filters b.view.mode b.view.sort b.view.records =
        [(.new "B" "1", 1), (.new "A" "2", 0)] := by
      have hle : (b.view.sort.compare (.new "A" "2") (.new "B" "1")).isLE = false := by
        decide +kernel
      show List.mergeSort [(Record.new "A" "2", 0), (Record.new "B" "1", 1)] _ = _
      simp [List.mergeSort, List.MergeSort.Internal.splitInTwo, hle]
    rw [hsettled.visible_eq, hsorted]
    rfl
  refine ⟨hvalid, hmarked, htitle, hprimary, hvisible, ?_⟩
  rintro ⟨c, hmarks, hsorted, -⟩
  rw [hmarks.marked] at hmarked
  have hfield : c.field = "project" := Option.some.inj hmarked
  rw [hprimary, hfield] at hsorted
  revert hsorted
  decide

end Browser

end DefectCatalog
