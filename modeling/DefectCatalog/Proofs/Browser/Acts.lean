import DefectCatalog.Browser.Step
import DefectCatalog.Proofs.Browser.Cursor
import DefectCatalog.Proofs.View.Moves

/-!
# What a step does

Keys, clicks and loads reach the browser in many ways, but each does one of three
things (`Deed`): it leaves the view and the sort alone, it asks the view for
operations and follows it, or it clicks on a column.  Beforehand it may move the
cursors within their lists, the one of the list only while no record is open
(`Handled`).

`step_deed` says so of every step, once; what a step keeps follows from it by
cases.  `Acts` is what the screen has to know of a deed: the view made moves, if
anything.
-/

namespace DefectCatalog

/-- The operations that keys, clicks and loads ask for, beside clicks on columns.
They leave the queue of events to the browser. -/
def View.Operation.Usual : View.Operation → Prop
  | .sortBy _ | .drain => False
  | _ => True

namespace Browser

open View (Moves)
open View.Operation (Usual)

/-- The cursors of `b'` are those of `b`, perhaps moved by hand. -/
structure Handled (b b' : Browser) : Prop where
  list_total : b'.list.total = b.list.total
  list_fits : b.list.Fits → b'.list.Fits
  /-- While a record is open the list cursor stays. -/
  list_eq : b.view.detail ≠ .closed → b'.list = b.list
  sidebar_total : b'.sidebarCursor.total = b.sidebarCursor.total
  sidebar_fits : b.sidebarCursor.Fits → b'.sidebarCursor.Fits

/-- Nothing is done to the view or the marked column; cursors may be handled. -/
structure Aside (b b' : Browser) : Prop extends Handled b b' where
  view_eq : b'.view = b.view
  columns_eq : b'.columns = b.columns
  sortedColumn_eq : b'.sortedColumn = b.sortedColumn

/-- What a step can do that asks for operations of one kind. -/
inductive Deed (asked : View.Operation → Prop) (b : Browser) : Browser → Prop
  /-- The view and the sort are left alone. -/
  | aside {b' : Browser} (h : Aside b b') : Deed asked b b'
  /-- The view does operations, and is followed. -/
  | operate {b' : Browser} (h : Aside b b') {ops : List View.Operation}
      (hops : ∀ op ∈ ops, asked op) : Deed asked b (b'.actAll ops)
  /-- A column is clicked on. -/
  | sort {b' : Browser} (h : Aside b b') {column : Nat} {c : Column}
      (hc : b.columns[column]? = some c) :
      Deed asked b ({ b' with sortedColumn := column }.act (.sortBy c.fields))

/-- The operations that a step may ask for. -/
def Step.Asks : Step → View.Operation → Prop
  | .view operations => (· ∈ operations)
  | _ => Usual

variable {b b₁ b₂ : Browser} {asked : View.Operation → Prop}

/-! ## Handling cursors -/

/-- Cursors that stay are handled. -/
theorem Handled.of_eq (hlist : b₁.list = b.list) (hsidebar : b₁.sidebarCursor = b.sidebarCursor) :
    Handled b b₁ where
  list_total := by rw [hlist]
  list_fits := fun h => hlist ▸ h
  list_eq := fun _ => hlist
  sidebar_total := by rw [hsidebar]
  sidebar_fits := fun h => hsidebar ▸ h

/-- Moving the list cursor while no record is open is handling it. -/
theorem Handled.moveList (hclosed : b.view.detail = .closed) {f : Cursor → Cursor}
    (hf : Cursor.Movement f) : Handled b { b with list := f b.list } where
  list_total := (hf b.list).2
  list_fits := fun _ => (hf b.list).1
  list_eq := fun hopen => absurd hclosed hopen
  sidebar_total := rfl
  sidebar_fits := id

/-- Moving the sidebar's cursor is handling it. -/
theorem Handled.moveSidebar (b : Browser) {f : Cursor → Cursor} (hf : Cursor.Movement f) :
    Handled b { b with sidebarCursor := f b.sidebarCursor } where
  list_total := rfl
  list_fits := id
  list_eq := fun _ => rfl
  sidebar_total := (hf b.sidebarCursor).2
  sidebar_fits := fun _ => (hf b.sidebarCursor).1

/-- Handling cursors twice is handling them, when the view stays meanwhile. -/
theorem Handled.trans (h₁ : Handled b b₁) (hview : b₁.view = b.view) (h₂ : Handled b₁ b₂) :
    Handled b b₂ where
  list_total := h₂.list_total.trans h₁.list_total
  list_fits := fun h => h₂.list_fits (h₁.list_fits h)
  list_eq := by
    intro hopen
    have hopen₁ : b₁.view.detail ≠ .closed := by rw [hview]; exact hopen
    exact (h₂.list_eq hopen₁).trans (h₁.list_eq hopen)
  sidebar_total := h₂.sidebar_total.trans h₁.sidebar_total
  sidebar_fits := fun h => h₂.sidebar_fits (h₁.sidebar_fits h)

/-! ## Deeds -/

/-- Changing what neither the view, the marked column nor a cursor depends on. -/
theorem Aside.of_eq
    (h : (b₁.view, b₁.columns, b₁.sortedColumn, b₁.list, b₁.sidebarCursor) =
      (b.view, b.columns, b.sortedColumn, b.list, b.sidebarCursor)) : Aside b b₁ := by
  simp only [Prod.mk.injEq] at h
  obtain ⟨hview, hcolumns, hmarked, hlist, hsidebar⟩ := h
  exact ⟨.of_eq hlist hsidebar, hview, hcolumns, hmarked⟩

/-- Two deeds aside are one. -/
theorem Aside.trans (h₁ : Aside b b₁) (h₂ : Aside b₁ b₂) : Aside b b₂ where
  toHandled := h₁.toHandled.trans h₁.view_eq h₂.toHandled
  view_eq := h₂.view_eq.trans h₁.view_eq
  columns_eq := h₂.columns_eq.trans h₁.columns_eq
  sortedColumn_eq := h₂.sortedColumn_eq.trans h₁.sortedColumn_eq

/-- Handling cursors first does not change what is done. -/
theorem Deed.after (hdeed : Deed asked b₁ b₂) (h : Aside b b₁) : Deed asked b b₂ := by
  cases hdeed with
  | aside h₂ => exact .aside (h.trans h₂)
  | operate h₂ hops => exact .operate (h.trans h₂) hops
  | sort h₂ hc =>
      rw [h.columns_eq] at hc
      exact .sort (h.trans h₂) hc

/-- Changing what neither the view, the marked column nor a cursor depends on. -/
theorem Deed.of_eq
    (h : (b₁.view, b₁.columns, b₁.sortedColumn, b₁.list, b₁.sidebarCursor) =
      (b.view, b.columns, b.sortedColumn, b.list, b.sidebarCursor)) : Deed asked b b₁ :=
  .aside (.of_eq h)

/-- Doing nothing. -/
theorem Deed.refl (b : Browser) : Deed asked b b :=
  .of_eq rfl

/-- Asking the view for operations. -/
theorem actAll_deed (b : Browser) {ops : List View.Operation} (hops : ∀ op ∈ ops, asked op) :
    Deed asked b (b.actAll ops) :=
  .operate (.of_eq rfl) hops

/-- Asking the view for an operation. -/
theorem act_deed (b : Browser) {op : View.Operation} (hop : asked op) :
    Deed asked b (b.act op) := by
  have hops : ∀ op' ∈ [op], asked op' := List.forall_mem_singleton.mpr hop
  exact b.actAll_deed hops

/-- Following the view without asking for anything. -/
theorem catchUp_deed (b : Browser) : Deed asked b b.catchUp := by
  have hops : ∀ op ∈ [], asked op := List.forall_mem_nil asked
  exact b.actAll_deed hops

/-! ## Keys -/

/-- Opening the selected bug is a usual deed. -/
theorem openAtCursor_deed (b : Browser) : Deed Usual b b.openAtCursor := by
  have hopen : ∀ b₁ : Browser, Deed Usual b₁ (b₁.act (.openAt b.list.selected)) :=
    fun b₁ => b₁.act_deed trivial
  unfold openAtCursor
  dsimp only
  split
  · exact hopen b
  · exact (hopen (b.inform "Nothing to open")).after (.of_eq rfl)

/-- Going back is a usual deed. -/
theorem returnToLast_deed (b : Browser) : Deed Usual b b.returnToLast := by
  have hback : ∀ b₁ : Browser, Deed Usual b₁ (b₁.act .back) := fun b₁ => b₁.act_deed trivial
  unfold returnToLast
  dsimp only
  split
  · exact hback b
  · exact (hback (b.inform "No previous view")).after (.of_eq rfl)

theorem toggleMode_deed (b : Browser) : Deed Usual b b.toggleMode := by
  have hmode : ∀ b₁ : Browser, Deed Usual b₁ (b₁.act .toggleMode) :=
    fun b₁ => b₁.act_deed trivial
  exact (hmode (b.inform _)).after (.of_eq rfl)

theorem resetFilters_deed (b : Browser) : Deed Usual b b.resetFilters :=
  (act_deed _ trivial).after (.of_eq rfl)

/-- Flipping the selected filter is a usual deed. -/
theorem toggleSelectedFilter_deed (b : Browser) : Deed Usual b b.toggleSelectedFilter := by
  unfold toggleSelectedFilter
  split
  · exact b.act_deed trivial
  · exact .refl b

/-- A click on a column. -/
theorem sortOn_deed (b : Browser) (column : Nat) : Deed asked b (b.sortOn column) := by
  unfold sortOn
  split
  · next c hc =>
      have hnews : ∀ text, Aside b (b.inform text) := fun _ => .of_eq rfl
      exact .sort (hnews _) hc
  · exact .refl b

/-- Sorting by the next column is a deed that may be asked for. -/
theorem sortByNext_deed (b : Browser) : Deed asked b b.sortByNext := by
  unfold sortByNext
  split
  · exact .refl b
  · exact b.sortOn_deed _

/-- Moving the focused cursor while no record is open. -/
theorem moveCursor_deed (hclosed : b.view.detail = .closed) {f : Cursor → Cursor}
    (hf : Cursor.Movement f) : Deed asked b (b.moveCursor f) := by
  unfold moveCursor
  split
  · exact .aside ⟨.moveList hclosed hf, rfl, rfl, rfl⟩
  · exact .aside ⟨.moveSidebar b hf, rfl, rfl, rfl⟩

/-- A key while a bug is open. -/
theorem detailKey_deed (b : Browser) (key : Key) : Deed Usual b (b.detailKey key) := by
  have hscroll : ∀ lines, Deed Usual b (b.movePatch lines) := fun _ => .of_eq rfl
  have hnext : Deed Usual b b.openNext := b.act_deed trivial
  have hprevious : Deed Usual b b.openPrevious := b.act_deed trivial
  have hclose : Deed Usual b b.closeBug := b.act_deed trivial
  unfold detailKey
  split <;> first
    | exact hnext
    | exact hprevious
    | exact hclose
    | exact hscroll _
    | exact .of_eq rfl

/-- The key that acts on what is selected. -/
theorem enterKey_deed (b : Browser) : Deed Usual b b.enterKey := by
  unfold enterKey
  split
  · exact b.openAtCursor_deed
  · exact b.toggleSelectedFilter_deed

/-- A key while the list is shown. -/
theorem listKey_deed (hclosed : b.view.detail = .closed) (key : Key) :
    Deed Usual b (b.listKey key) := by
  have hmove : ∀ rows, Deed Usual b (b.moveCursor fun c => c.move rows) :=
    fun rows => moveCursor_deed hclosed (Cursor.movement_move rows)
  have hfirst : Deed Usual b (b.moveCursor Cursor.first) :=
    moveCursor_deed hclosed Cursor.movement_first
  have hlast : Deed Usual b (b.moveCursor Cursor.last) :=
    moveCursor_deed hclosed Cursor.movement_last
  have hspace : Deed Usual b
      (if b.focus = .filters then b.toggleSelectedFilter else b) := by
    split
    · exact b.toggleSelectedFilter_deed
    · exact .refl b
  unfold listKey
  split <;> first
    | exact hmove _
    | exact hfirst
    | exact hlast
    | exact hspace
    | exact b.enterKey_deed
    | exact b.toggleMode_deed
    | exact b.resetFilters_deed
    | exact b.sortByNext_deed
    | exact b.sortOn_deed _
    | exact .of_eq rfl

/-- The detail is closed while it is not shown. -/
theorem detail_of_isDetailOpen_eq_false (h : b.isDetailOpen = false) :
    b.view.detail = .closed := by
  simpa [isDetailOpen] using h

/-- A key while the help panel is shown. -/
theorem helpKey_deed (b : Browser) (key : Key) : Deed asked b (b.helpKey key) := by
  unfold helpKey
  split <;> exact .of_eq rfl

/-- A key while no panel is shown. -/
theorem openKey_deed (b : Browser) (key : Key) : Deed Usual b (b.openKey key) := by
  unfold openKey
  split
  · exact .of_eq rfl
  · exact .of_eq rfl
  · exact b.returnToLast_deed
  · exact b.returnToLast_deed
  · split
    · exact b.detailKey_deed key
    · next hopen =>
        have hclosed := detail_of_isDetailOpen_eq_false (Bool.eq_false_iff.mpr hopen)
        exact listKey_deed hclosed key

/-- A key event. -/
theorem handleKey_deed (b : Browser) (e : KeyEvent) : Deed Usual b (b.handleKey e) := by
  unfold handleKey
  split
  · exact .refl b
  · dsimp only
    split
    · exact .of_eq rfl
    · split
      · exact .of_eq rfl
      · exact (helpKey_deed _ e.key).after (.of_eq rfl)
      · exact (openKey_deed _ e.key).after (.of_eq rfl)

/-! ## The mouse -/

/-- A click into the table while no record is open. -/
theorem clickTable_deed (hclosed : b.view.detail = .closed) (column row : Nat) :
    Deed Usual b (b.clickTable column row) := by
  unfold clickTable
  dsimp only
  split
  · exact (sortOn_deed _ _).after (.of_eq rfl)
  · next position _ =>
      split
      · exact (openAtCursor_deed _).after (.of_eq rfl)
      · have hselect : Aside b { b with list := b.list.select position } :=
          ⟨.moveList hclosed (Cursor.movement_select position), rfl, rfl, rfl⟩
        exact .aside (hselect.trans (.of_eq rfl))
  · exact .of_eq rfl

/-- A click into the sidebar. -/
theorem clickSidebar_deed (b : Browser) (row : Nat) : Deed Usual b (b.clickSidebar row) := by
  unfold clickSidebar
  dsimp only
  split
  · next index _ =>
      have hselect : Aside b { b with sidebarCursor := b.sidebarCursor.select index } :=
        ⟨.moveSidebar b (Cursor.movement_select index), rfl, rfl, rfl⟩
      exact (toggleSelectedFilter_deed _).after (hselect.trans (.of_eq rfl))
  · exact .of_eq rfl

/-- A click while no record is open. -/
theorem click_deed (hclosed : b.view.detail = .closed) (column row : Nat) :
    Deed Usual b (b.click column row) := by
  unfold click
  split
  · exact clickTable_deed hclosed column row
  · split
    · exact b.clickSidebar_deed row
    · exact .refl b

/-- A mouse event. -/
theorem handleMouse_deed (b : Browser) (e : MouseEvent) : Deed Usual b (b.handleMouse e) := by
  unfold handleMouse
  split
  · exact .refl b
  · split
    · exact .of_eq rfl
    · exact .of_eq rfl
    · next hshown =>
        have hclosed := detail_of_isDetailOpen_eq_false hshown
        exact moveCursor_deed hclosed (Cursor.movement_move 1)
    · next hshown =>
        have hclosed := detail_of_isDetailOpen_eq_false hshown
        exact moveCursor_deed hclosed (Cursor.movement_move (-1))
    · next hshown =>
        have hclosed := detail_of_isDetailOpen_eq_false hshown
        exact click_deed hclosed e.column e.row
    · exact .refl b

/-! ## Loads and drawing -/

/-- A bug list that is there, or not. -/
theorem takeRecords_deed (b : Browser) (result : Except CatalogError (List Record)) :
    Deed Usual b (b.takeRecords result) := by
  unfold takeRecords
  split
  · exact (act_deed _ trivial).after (.of_eq rfl)
  · exact (catchUp_deed _).after (.of_eq rfl)

/-- A classification that is there, or not. -/
theorem takeTaxonomy_deed (b : Browser) (result : Except CatalogError Taxonomy) :
    Deed Usual b (b.takeTaxonomy result) := by
  unfold takeTaxonomy
  split
  · exact (act_deed _ trivial).after (.of_eq rfl)
  · exact (catchUp_deed _).after (.of_eq rfl)

/-- Starting at a route. -/
theorem enterAt_deed (b : Browser) (route : Route) : Deed Usual b (b.enterAt route) := by
  have hnavigate : ∀ b₁ : Browser, Deed Usual b₁ (b₁.act (.navigate route)) :=
    fun b₁ => b₁.act_deed trivial
  unfold enterAt dismissWelcome
  split
  · exact (hnavigate _).after (.of_eq rfl)
  · exact hnavigate b

/-- Drawing the sidebar records only what was drawn. -/
theorem drawSidebar_eq_with_drawn (b : Browser) (c : Screen.Canvas) (a : Screen.Area) :
    ∃ drawn, (b.drawSidebar c a).2 = { b with drawn } := by
  unfold drawSidebar
  dsimp only
  split
  · exact ⟨_, rfl⟩
  · exact ⟨_, rfl⟩

/-- Drawing the table records only what was drawn. -/
theorem drawTable_eq_with_drawn (b : Browser) (c : Screen.Canvas) (a : Screen.Area) :
    ∃ drawn, (b.drawTable c a).2 = { b with drawn } := by
  unfold drawTable drawRecords
  dsimp only
  split
  · exact ⟨_, rfl⟩
  · split
    · exact ⟨_, rfl⟩
    · exact ⟨_, rfl⟩

/-- Drawing records only what was drawn. -/
theorem draw_eq_with_drawn (b : Browser) (width height : Nat) :
    ∃ drawn, (b.draw width height).2 = { b with drawn } := by
  unfold draw
  dsimp only
  split
  · obtain ⟨sidebar, hsidebar⟩ := b.drawSidebar_eq_with_drawn
      (b.drawHeader (.blank width height) { width, height := 1 })
      { x := 0, y := 1, width := Sidebar.width, height := height - 3 }
    obtain ⟨table, htable⟩ := drawTable_eq_with_drawn { b with drawn := sidebar } _ _
    exact ⟨table, by rw [hsidebar]; exact htable⟩
  · exact ⟨b.drawn, rfl⟩

/-- **A step leaves the view and the sort alone, asks the view for operations, or
clicks on a column.** -/
theorem step_deed (b : Browser) (st : Step) : Deed st.Asks b (b.step st) := by
  cases st with
  | key event => exact b.handleKey_deed event
  | mouse event => exact b.handleMouse_deed event
  | loadedRecords result => exact b.takeRecords_deed result
  | loadedTaxonomy result => exact b.takeTaxonomy_deed result
  | enterAt route => exact b.enterAt_deed route
  | draw width height =>
      obtain ⟨drawn, hdrawn⟩ := b.draw_eq_with_drawn width height
      have hstep : b.step (.draw width height) = { b with drawn } := hdrawn
      rw [hstep]
      exact .of_eq rfl
  | view operations => exact b.actAll_deed fun _ hop => hop

/-! ## What the screen has to know -/

/-- What a step can do to a screen that follows the view. -/
inductive Acts (b : Browser) : Browser → Prop
  /-- The view is left alone. -/
  | aside {b' : Browser} (h : Handled b b') (hview : b'.view = b.view) : Acts b b'
  /-- The view makes moves, and is followed. -/
  | follow {b' : Browser} (h : Handled b b') (hmoves : b.view.Moves b'.view) : Acts b b'.catchUp

/-- Whether a step leaves the view's events to the browser: the browser alone takes them
from the queue, in `catchUp`. -/
def TakesNoEvent (b : Browser) : Step → Prop
  | .view operations => b.view.TakesNoEvent operations
  | _ => True

/-- A deed that does not take the events away is one that the screen can follow. -/
theorem Deed.acts (hdeed : Deed asked b b₁) (hdrain : ¬ asked .drain) : Acts b b₁ := by
  cases hdeed with
  | aside h => exact .aside h.toHandled h.view_eq
  | @operate b' h ops hops =>
      have hmoves : b.view.Moves (b'.view.performAll ops) := by
        rw [h.view_eq]
        exact View.performAll_moves
          (View.takesNoEvent_of_not_mem fun hmem => hdrain (hops _ hmem))
      exact .follow (h.toHandled.trans h.view_eq (.of_eq rfl rfl)) hmoves
  | @sort b' h column c hc =>
      have hmoves : b.view.Moves (b'.view.sortBy c.fields) := by
        rw [h.view_eq]
        exact .single (.choose b.view.filters b.view.mode (b.view.sort.click c.fields))
      exact .follow (h.toHandled.trans h.view_eq (.of_eq rfl rfl)) hmoves

/-- **A step handles the cursors, and then leaves the view alone or follows it.** -/
theorem step_acts (b : Browser) {st : Step} (hst : b.TakesNoEvent st) : Acts b (b.step st) := by
  cases st with
  | view operations => exact .follow (.of_eq rfl rfl) (View.performAll_moves hst)
  | key | mouse | loadedRecords | loadedTaxonomy | enterAt | draw =>
      exact (b.step_deed _).acts id

end Browser

end DefectCatalog
