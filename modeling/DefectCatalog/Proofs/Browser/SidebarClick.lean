import DefectCatalog.Proofs.Browser.InStep
import DefectCatalog.Proofs.Filters.Matching
import DefectCatalog.Proofs.Screen.Glyphs
import DefectCatalog.Proofs.Taxonomy.Headings

/-!
# Clicks into the sidebar

Drawing and clicking find the entry on a row of the screen separately.
`shownRow?` says which line of the outline is drawn on a row, and
`sameRow_drawSidebar` that the screen shows it.  A click acts on the entry that
is drawn, but for one row: the lower border counts as a further line, and a
click on it acts on the entry that the border keeps from being seen
(`clickAt_drawn`).
-/

namespace DefectCatalog

namespace Taxonomy

/-- A line of the outline that is an entry has that entry's position. -/
theorem getElem?_of_outline {es : List Entry} {row i : Nat} {e : Entry}
    (h : (outline es)[row]? = some (.entry i e)) : es[i]? = some e := by
  have hentry : .entry i e ∈ (outline es).filter isEntry :=
    List.mem_filter.mpr ⟨List.mem_of_getElem? h, rfl⟩
  rw [filter_isEntry_outline] at hentry
  obtain ⟨x, hx, heq⟩ := List.mem_map.mp hentry
  cases heq
  exact List.mk_mem_zipIdx_iff_getElem?.mp hx

end Taxonomy

namespace Browser

open Screen

variable {b b' : Browser} {a : Area} {i : Nat}

/-! ## What is drawn -/

/-- The lines of the sidebar. -/
def sidebarRows (b : Browser) : List OutlineRow :=
  Taxonomy.outline b.entries

/-- The line of the sidebar that is drawn on row `y` of the screen, when the sidebar
is drawn into an area; no line is on its borders. -/
def shownRow? (b : Browser) (a : Area) (y : Nat) : Option OutlineRow :=
  if a.y < y ∧ y + 1 < a.bottom then
    b.sidebarRows[b.sidebarTop b.sidebarRows a + (y - (a.y + 1))]?
  else none

/-- The first line of the sidebar below those that are drawn. -/
def hiddenRow? (b : Browser) (a : Area) : Option OutlineRow :=
  b.sidebarRows[b.sidebarTop b.sidebarRows a + (a.height - 2)]?

/-- The sidebar without its lines: the border with its title. -/
def drawSidebarFrame (b : Browser) (c : Canvas) (a : Area) : Canvas :=
  let color := b.focusColor .filters
  let block : Block :=
    { title := .ofText b.sidebarTitle, titleStyle := (Style.ofColor color).asBold
      style := .ofColor color }
  block.draw c a

theorem drawSidebar_fst (c : Canvas) (a : Area) (h : b.entries ≠ []) :
    (b.drawSidebar c a).1 =
      (b.drawSidebarFrame c a).drawCut (Block.inside a) (b.sidebarLines b.sidebarRows a) := by
  unfold drawSidebar
  dsimp only
  split
  · next hempty => exact absurd (List.isEmpty_iff.mp hempty) h
  · rfl

/-- The line that belongs on a row inside the border. -/
theorem itemOn?_sidebarLines (b : Browser) (a : Area) (y : Nat) :
    (Block.inside a).itemOn? (b.sidebarLines b.sidebarRows a) y =
      (b.shownRow? a y).map (Sidebar.rowLine b.palette (a.width - 2) b.entryState) := by
  unfold Area.itemOn? shownRow? sidebarLines Sidebar.window
  have hborder : (Block.inside a).y ≤ y ∧ y < (Block.inside a).bottom ↔
      a.y < y ∧ y + 1 < a.bottom := by
    unfold Block.inside Area.bottom
    dsimp only
    omega
  by_cases hin : a.y < y ∧ y + 1 < a.bottom
  · have hroom : y - (a.y + 1) < a.height - 2 := by
      have hbottom : a.bottom = a.y + a.height := rfl
      omega
    rw [if_pos (hborder.mpr hin), if_pos hin, List.getElem?_map]
    show Option.map _ (List.take _ _)[y - (a.y + 1)]? = _
    rw [List.getElem?_take_of_lt hroom, List.getElem?_drop]
  · rw [if_neg fun h => hin (hborder.mp h), if_neg hin]
    rfl

/-- **A row of the screen shows the line that is said to be drawn there**, and the
border alone if there is none. -/
theorem sameRow_drawSidebar (c : Canvas) (a : Area) (y : Nat) (h : b.entries ≠ []) :
    Canvas.SameRow y (b.drawSidebar c a).1
      ((b.drawSidebarFrame c a).drawCut { Block.inside a with y, height := 1 }
        ((b.shownRow? a y).map
          (Sidebar.rowLine b.palette (a.width - 2) b.entryState)).toList) := by
  have hrow := (b.drawSidebarFrame c a).sameRow_drawCut (Block.inside a)
    (b.sidebarLines b.sidebarRows a) .left y
  rw [itemOn?_sidebarLines] at hrow
  rw [b.drawSidebar_fst c a h]
  exact hrow

/-- The symbols of the line that is drawn on a row stand in its cells. -/
theorem showsLine_drawSidebar (c : Canvas) (a : Area) {y : Nat} {r : OutlineRow}
    (h : b.shownRow? a y = some r) :
    Canvas.ShowsLine (b.drawSidebarFrame c a) (b.drawSidebar c a).1 (a.x + 1) y (a.width - 2)
      (Sidebar.rowLine b.palette (a.width - 2) b.entryState r) := by
  have hentries : b.entries ≠ [] := by
    intro hempty
    rw [shownRow?, sidebarRows, hempty] at h
    split at h
    · cases h
    · cases h
  have hrow := b.sameRow_drawSidebar c a y hentries
  rw [h] at hrow
  exact ((b.drawSidebarFrame c a).showsLine_drawCut (Block.inside a) _ y).of_sameRow hrow

/-! ## What a click does -/

/-- Entry `i` was acted on: the cursor of the sidebar is on it, and its filter was
flipped. -/
def TogglesEntry (b b' : Browser) (i : Nat) : Prop :=
  ∃ e, b.entries[i]? = some e ∧ b'.sidebarCursor.selected = i ∧
    b'.view.filters = b.view.filters.toggle e.key

theorem TogglesEntry.unique {j : Nat} (hi : TogglesEntry b b' i) (hj : TogglesEntry b b' j) :
    i = j := by
  obtain ⟨_, -, hselected, -⟩ := hi
  obtain ⟨_, -, hselected', -⟩ := hj
  exact hselected.symm.trans hselected'

/-- Nothing is toggled while the filters stay. -/
theorem not_togglesEntry_of_view_eq (h : b'.view = b.view) : ¬ TogglesEntry b b' i := by
  rintro ⟨e, -, -, hfilters⟩
  rw [h] at hfilters
  exact b.view.filters.toggle_ne e.key hfilters.symm

/-- Following the view leaves a cursor of the right length on its row. -/
theorem sidebarCursor_catchUp (htotal : b.sidebarCursor.total = b.view.taxonomy.size)
    (hfits : b.sidebarCursor.Fits) :
    b.catchUp.sidebarCursor = b.sidebarCursor := by
  have hfollow : ∀ (es : List View.Event) (b₁ : Browser),
      b₁.sidebarCursor = b.sidebarCursor → b₁.view.taxonomy = b.view.taxonomy →
        (es.foldl follow b₁).sidebarCursor = b.sidebarCursor := by
    intro es
    induction es with
    | nil => exact fun _ hcursor _ => hcursor
    | cons e es ih =>
        intro b₁ hcursor htaxonomy
        cases e with
        | listChanged =>
            have hresize : b₁.sidebarCursor.resize b₁.view.taxonomy.size = b.sidebarCursor := by
              rw [hcursor, htaxonomy, ← htotal]
              exact Cursor.resize_total hfits
            exact ih _ hresize htaxonomy
        | opened | updated | closed | routeChanged => exact ih _ hcursor htaxonomy
  exact hfollow _ _ rfl rfl

/-- A click on the line of an entry acts on it. -/
theorem togglesEntry_toggleSelectedFilter {e : Taxonomy.Entry}
    (hentry : b.entries[i]? = some e) (hselected : b.sidebarCursor.selected = i)
    (htotal : b.sidebarCursor.total = b.view.taxonomy.size) :
    TogglesEntry b b.toggleSelectedFilter i := by
  have hlt : i < b.view.taxonomy.size := (List.getElem?_eq_some_iff.mp hentry).1
  have htoggle : b.toggleSelectedFilter = b.act (.toggleFilter e.key) := by
    simp only [toggleSelectedFilter, hselected, hentry]
  refine ⟨e, hentry, ?_, ?_⟩
  · have hfits : b.sidebarCursor.Fits := Or.inl (by omega)
    have hcursor : b.toggleSelectedFilter.sidebarCursor = b.sidebarCursor := by
      rw [htoggle]
      exact sidebarCursor_catchUp htotal hfits
    rw [hcursor]
    exact hselected
  · rw [htoggle, act, view_catchUp]
    rfl

/-- A click into the sidebar acts on the entry of the line that it hits. -/
theorem togglesEntry_clickSidebar {e : Taxonomy.Entry} {row : Nat}
    (hhit : Sidebar.hit? b.sidebarRows b.drawn.sidebar b.drawn.sidebarTop row = some i)
    (hentry : b.entries[i]? = some e)
    (htotal : b.sidebarCursor.total = b.view.taxonomy.size) :
    TogglesEntry b (b.clickSidebar row) i := by
  have hlt : i < b.sidebarCursor.total := by
    rw [htotal]
    exact (List.getElem?_eq_some_iff.mp hentry).1
  have hclick : b.clickSidebar row = toggleSelectedFilter
      { b with focus := .filters, sidebarCursor := b.sidebarCursor.select i } := by
    unfold clickSidebar
    dsimp only
    split
    · next j hj =>
        obtain rfl : i = j := Option.some.inj (hhit.symm.trans hj)
        rfl
    · next hnone => exact absurd (hhit.symm.trans hnone) (by simp)
  rw [hclick]
  exact togglesEntry_toggleSelectedFilter
    (b := { b with focus := .filters, sidebarCursor := b.sidebarCursor.select i })
    hentry (Cursor.selected_select hlt) htotal

/-- A click into the sidebar that hits no entry leaves the view alone. -/
theorem view_clickSidebar {row : Nat}
    (hhit : Sidebar.hit? b.sidebarRows b.drawn.sidebar b.drawn.sidebarTop row = none) :
    (b.clickSidebar row).view = b.view := by
  unfold clickSidebar
  dsimp only
  split
  · next j hj => exact absurd (hhit.symm.trans hj) (by simp)
  · rfl

theorem Sidebar.entryOf?_eq_some_iff {r : OutlineRow} :
    Sidebar.entryOf? r = some i ↔ ∃ e, r = .entry i e := by
  cases r <;> simp [Sidebar.entryOf?]

/-- A click hits the line that the first row leads to, if it is that of an entry. -/
theorem Sidebar.hit?_eq_some_iff {rows : List OutlineRow} {area : Area} {offset row : Nat} :
    Sidebar.hit? rows area offset row = some i ↔
      area.y < row ∧ ∃ e, rows[offset + (row - (area.y + 1))]? = some (.entry i e) := by
  unfold Sidebar.hit?
  split
  · next habove =>
      have hnot : ¬ area.y < row := by omega
      simp [hnot]
  · next hbelow =>
      have hlt : area.y < row := by omega
      rw [and_iff_right hlt, Option.bind_eq_some_iff]
      constructor
      · rintro ⟨r, hr, hposition⟩
        obtain ⟨e, rfl⟩ := Sidebar.entryOf?_eq_some_iff.mp hposition
        exact ⟨e, hr⟩
      · rintro ⟨e, hr⟩
        exact ⟨_, hr, rfl⟩

/-- **When a click into the sidebar acts on an entry**: exactly when it hits its line. -/
theorem togglesEntry_clickSidebar_iff {row : Nat}
    (htotal : b.sidebarCursor.total = b.view.taxonomy.size) :
    TogglesEntry b (b.clickSidebar row) i ↔
      Sidebar.hit? b.sidebarRows b.drawn.sidebar b.drawn.sidebarTop row = some i := by
  cases hhit : Sidebar.hit? b.sidebarRows b.drawn.sidebar b.drawn.sidebarTop row with
  | none =>
      have hnot : ¬ TogglesEntry b (b.clickSidebar row) i :=
        not_togglesEntry_of_view_eq (view_clickSidebar hhit)
      exact iff_of_false hnot nofun
  | some j =>
      obtain ⟨-, e, he⟩ := Sidebar.hit?_eq_some_iff.mp hhit
      have htoggles := togglesEntry_clickSidebar hhit (Taxonomy.getElem?_of_outline he) htotal
      constructor
      · intro hi
        rw [htoggles.unique hi]
      · intro hi
        rwa [← Option.some.inj hi]

/-- What drawing the sidebar records: its area, and the first line that is drawn. -/
theorem drawn_drawSidebar (c : Canvas) (a : Area) :
    (b.drawSidebar c a).2.drawn.sidebar = a ∧
      (b.drawSidebar c a).2.drawn.table = b.drawn.table ∧
      (b.entries ≠ [] →
        (b.drawSidebar c a).2.drawn.sidebarTop = b.sidebarTop b.sidebarRows a) := by
  unfold drawSidebar
  dsimp only
  split
  · next hempty => exact ⟨rfl, rfl, fun h => absurd (List.isEmpty_iff.mp hempty) h⟩
  · exact ⟨rfl, rfl, fun _ => rfl⟩

/-- **What a click hits after the sidebar was drawn**: the line that is drawn on the
row, or on the lower border the first line that is not. -/
theorem hit?_drawSidebar (c : Canvas) (a : Area) {column row : Nat} (hheight : 3 ≤ a.height)
    (hin : a.contains column row) :
    Sidebar.hit? b.sidebarRows (b.drawSidebar c a).2.drawn.sidebar
        (b.drawSidebar c a).2.drawn.sidebarTop row = some i ↔
      (∃ e, b.shownRow? a row = some (.entry i e)) ∨
        row + 1 = a.bottom ∧ ∃ e, b.hiddenRow? a = some (.entry i e) := by
  obtain ⟨harea, -, htop⟩ := b.drawn_drawSidebar c a
  rw [harea, Sidebar.hit?_eq_some_iff]
  unfold shownRow? hiddenRow?
  by_cases hempty : b.entries = []
  · have hrows : b.sidebarRows = [] := by
      rw [sidebarRows, hempty]
      rfl
    simp [hrows]
  · have hbottom : a.bottom = a.y + a.height := rfl
    have hlt : row < a.bottom := by
      simp only [Area.contains, Bool.and_eq_true, decide_eq_true_eq] at hin
      exact hin.2
    rw [htop hempty]
    by_cases hborder : row + 1 = a.bottom
    · -- the lower border is taken for the row of a further line
      have hlast : row - (a.y + 1) = a.height - 2 := by omega
      have hbelow : a.y < row := by omega
      simp [hborder, hlast, hbelow]
    · by_cases hbelow : a.y < row
      · have hinside : a.y < row ∧ row + 1 < a.bottom := by omega
        simp [hborder, hbelow, hinside.2]
      · simp [hborder, hbelow]

/-- The browser after a click with the left button. -/
def press (b : Browser) (column row : Nat) : Browser :=
  b.handleMouse ⟨.press, column, row⟩

/-- What a click at a place of the screen has to do with the sidebar that was drawn
there. -/
structure SidebarClick (b : Browser) (c : Canvas) (a : Area) (column row : Nat) : Prop where
  /-- The screen shows the line that is drawn on the row, or the border alone. -/
  shows : b.entries ≠ [] → Canvas.SameRow row (b.drawSidebar c a).1
    ((b.drawSidebarFrame c a).drawCut { Block.inside a with y := row, height := 1 }
      ((b.shownRow? a row).map (Sidebar.rowLine b.palette (a.width - 2) b.entryState)).toList)
  /-- Its symbols stand between the borders. -/
  symbols : ∀ r, b.shownRow? a row = some r →
    Canvas.ShowsLine (b.drawSidebarFrame c a) (b.drawSidebar c a).1 (a.x + 1) row (a.width - 2)
      (Sidebar.rowLine b.palette (a.width - 2) b.entryState r)
  /-- The click acts on the entry whose line is drawn on the row; on the lower
  border it acts on the entry of the first line that is not drawn. -/
  toggles_iff : ∀ i,
    TogglesEntry (b.drawSidebar c a).2 ((b.drawSidebar c a).2.press column row) i ↔
      (∃ e, b.shownRow? a row = some (.entry i e)) ∨
        row + 1 = a.bottom ∧ ∃ e, b.hiddenRow? a = some (.entry i e)
  /-- A click that acts on no entry leaves the view alone. -/
  otherwise :
    (∀ i, ¬ TogglesEntry (b.drawSidebar c a).2 ((b.drawSidebar c a).2.press column row) i) →
      ((b.drawSidebar c a).2.press column row).view = b.view

/-- A click beside the table and into the sidebar, while neither a panel nor a bug
covers it, is one into the sidebar. -/
theorem press_eq_clickSidebar {column row : Nat} (hmouse : b.mouse)
    (hpanel : b.overlay.isShown = false) (hclosed : b.isDetailOpen = false)
    (htable : b.drawn.table.contains column row = false)
    (hsidebar : b.drawn.sidebar.contains column row) :
    b.press column row = b.clickSidebar row := by
  unfold press handleMouse
  simp only [hmouse, hpanel, hclosed]
  simp [click, htable, hsidebar]

/-- **A click into the sidebar acts on what is drawn there**, but for the lower
border: whatever the taxonomy, the cursor, the offset of before and the area are.
The cursor has the length of the taxonomy after every run (`Ready.run`). -/
theorem sidebarClick_press (b : Browser) (c : Canvas) (a : Area) (column row : Nat)
    (hmouse : b.mouse) (hpanel : b.overlay.isShown = false) (hclosed : b.isDetailOpen = false)
    (htotal : b.sidebarCursor.total = b.view.taxonomy.size) (hheight : 3 ≤ a.height)
    (hin : a.contains column row) (htable : b.drawn.table.contains column row = false) :
    b.SidebarClick c a column row := by
  obtain ⟨drawn, hdrawn⟩ := b.drawSidebar_eq_with_drawn c a
  obtain ⟨harea, htable', -⟩ := b.drawn_drawSidebar c a
  have hpress : (b.drawSidebar c a).2.press column row =
      (b.drawSidebar c a).2.clickSidebar row := by
    rw [← htable'] at htable
    have hsidebar : (b.drawSidebar c a).2.drawn.sidebar.contains column row := by rwa [harea]
    rw [hdrawn] at htable hsidebar ⊢
    exact press_eq_clickSidebar hmouse hpanel hclosed htable hsidebar
  have hrows : (b.drawSidebar c a).2.sidebarRows = b.sidebarRows := by
    rw [hdrawn]
    rfl
  have hhit : ∀ i,
      TogglesEntry (b.drawSidebar c a).2 ((b.drawSidebar c a).2.press column row) i ↔
        Sidebar.hit? b.sidebarRows (b.drawSidebar c a).2.drawn.sidebar
          (b.drawSidebar c a).2.drawn.sidebarTop row = some i := by
    intro i
    have htotal' : (b.drawSidebar c a).2.sidebarCursor.total =
        (b.drawSidebar c a).2.view.taxonomy.size := by
      rw [hdrawn]
      exact htotal
    rw [hpress, togglesEntry_clickSidebar_iff htotal', hrows]
  refine ⟨b.sameRow_drawSidebar c a row, fun _ => b.showsLine_drawSidebar c a, ?_, ?_⟩
  · intro i
    exact (hhit i).trans (hit?_drawSidebar c a hheight hin)
  · intro hnone
    have hmiss : Sidebar.hit? b.sidebarRows (b.drawSidebar c a).2.drawn.sidebar
        (b.drawSidebar c a).2.drawn.sidebarTop row = none :=
      Option.eq_none_iff_forall_ne_some.mpr fun i hi => hnone i ((hhit i).mpr hi)
    rw [← hrows] at hmiss
    rw [hpress, view_clickSidebar hmiss, hdrawn]

/-- A click on the fifth row of a sidebar with three entries acts on the third. -/
theorem sidebarClick_press_of_run :
    let t := ["add", "remove", "wrap"].foldl
      (fun t key => t.insert "Repair" "Loop" key { name := key }) Taxonomy.empty
    let b := (new { browse := { showWelcome := false } }).run [.loadedTaxonomy (.ok t)]
    let a : Area := { y := 1, width := 34, height := 12 }
    b.mouse ∧ b.overlay.isShown = false ∧ b.isDetailOpen = false ∧
      b.sidebarCursor.total = b.view.taxonomy.size ∧ a.contains 5 6 ∧
      b.drawn.table.contains 5 6 = false ∧ b.SidebarClick (.blank 100 15) a 5 6 ∧
      TogglesEntry (b.drawSidebar (.blank 100 15) a).2
        ((b.drawSidebar (.blank 100 15) a).2.press 5 6) 2 := by
  intro t b a
  have hmouse : b.mouse := by decide +kernel
  have hpanel : b.overlay.isShown = false := by decide +kernel
  have hclosed : b.isDetailOpen = false := by decide +kernel
  have htotal : b.sidebarCursor.total = b.view.taxonomy.size :=
    ((ready_new _).run _ (by simp [KeepsEvents, TakesNoEvent])).sidebar_total
  have hin : a.contains 5 6 := by decide
  have htable : b.drawn.table.contains 5 6 = false := by decide +kernel
  have hshown : b.shownRow? a 6 =
      some (.entry 2 ⟨"Repair", "Loop", "wrap", { name := "wrap" }⟩) := by decide +kernel
  have hclick := sidebarClick_press b (.blank 100 15) a 5 6 hmouse hpanel hclosed htotal
    (by decide) hin htable
  exact ⟨hmouse, hpanel, hclosed, htotal, hin, htable, hclick,
    (hclick.toggles_iff 2).mpr (Or.inl ⟨_, hshown⟩)⟩

/-- **A click on the lower border flips a filter that is not to be seen.**  Of
twelve entries a screen of fifteen rows shows eight; the border below them acts on
the ninth. -/
theorem border_toggles_hidden_entry :
    let keys := ["k00", "k01", "k02", "k03", "k04", "k05", "k06", "k07", "k08", "k09", "k10", "k11"]
    let t := keys.foldl
      (fun t key => t.insert "Category" "Group" key { name := key }) Taxonomy.empty
    let b := (new { browse := { showWelcome := false } }).run [.loadedTaxonomy (.ok t)]
    let b₁ := b.step (.draw 100 15)
    b₁.mouse ∧ b₁.overlay.isShown = false ∧ b₁.isDetailOpen = false ∧
      b₁.drawn.sidebar = { y := 1, width := 34, height := 12 } ∧
      b₁.drawn.sidebar.contains 5 12 ∧ b₁.drawn.table.contains 5 12 = false ∧
      b.shownRow? b₁.drawn.sidebar 12 = none ∧ TogglesEntry b₁ (b₁.press 5 12) 8 := by
  intro keys t b b₁
  have hmouse : b₁.mouse := by decide +kernel
  have hpanel : b₁.overlay.isShown = false := by decide +kernel
  have hclosed : b₁.isDetailOpen = false := by decide +kernel
  have harea : b₁.drawn.sidebar = { y := 1, width := 34, height := 12 } := by decide +kernel
  have hin : b₁.drawn.sidebar.contains 5 12 := by decide +kernel
  have htable : b₁.drawn.table.contains 5 12 = false := by decide +kernel
  have hshown : b.shownRow? b₁.drawn.sidebar 12 = none := by decide +kernel
  have hentry : b₁.entries[8]? = some ⟨"Category", "Group", "k08", { name := "k08" }⟩ := by
    decide +kernel
  have hcursor : (b₁.press 5 12).sidebarCursor.selected = 8 := by decide +kernel
  have hfilters : (b₁.press 5 12).view.filters = b₁.view.filters.toggle "k08" := rfl
  exact ⟨hmouse, hpanel, hclosed, harea, hin, htable, hshown, _, hentry, hcursor, hfilters⟩

end Browser

end DefectCatalog
