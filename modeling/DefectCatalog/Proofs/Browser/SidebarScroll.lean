import DefectCatalog.Proofs.Browser.SidebarClick

/-!
# The cursor of the sidebar on the screen

The cursor counts the entries of the taxonomy, and the window counts the lines of its
outline, headings among them.  Every entry has exactly one line
(`filterMap_entryOf?_outline`), so the line of the cursor is found, and the window moves
until it is drawn, but not at all if it is drawn already (`cursorShown_drawSidebar`).
-/

namespace DefectCatalog.Browser

open Screen

namespace Sidebar

open Taxonomy (Entry outline)

variable {es : List Entry} {i j r r' : Nat} {e : Entry}

/-! ## The lines of the entries -/

/-- Without its headings the outline counts the entries. -/
theorem filterMap_entryOf?_outline (es : List Entry) :
    (outline es).filterMap entryOf? = List.range es.length := by
  have hheadings : (outline es).filterMap entryOf? =
      ((outline es).filter Taxonomy.isEntry).filterMap entryOf? := by
    rw [List.filterMap_filter]
    refine List.filterMap_congr fun r _ => ?_
    cases r <;> rfl
  rw [hheadings, Taxonomy.filter_isEntry_outline, Taxonomy.entryRows, List.filterMap_map,
    List.range_eq_range', ← List.zipIdx_map_snd 0 es]
  exact congrFun List.filterMap_eq_map _

/-- Every entry has a line. -/
theorem exists_line (h : es[i]? = some e) :
    ∃ r : Nat, (outline es)[r]? = some (.entry i e) := by
  have hmem : i ∈ (outline es).filterMap entryOf? := by
    rw [filterMap_entryOf?_outline, List.mem_range]
    exact (List.getElem?_eq_some_iff.mp h).1
  obtain ⟨line, hline, hposition⟩ := List.mem_filterMap.mp hmem
  obtain ⟨d, rfl⟩ := entryOf?_eq_some_iff.mp hposition
  obtain ⟨r, hr⟩ := List.getElem?_of_mem hline
  have hd : es[i]? = some d := Taxonomy.getElem?_of_outline hr
  obtain rfl : e = d := Option.some.inj (h.symm.trans hd)
  exact ⟨r, hr⟩

/-- The lines of the entries stand in the order of the entries. -/
theorem lt_of_line_lt {d : Entry} (hi : (outline es)[r]? = some (.entry i e))
    (hj : (outline es)[r']? = some (.entry j d)) (hlt : r < r') : i < j := by
  have hordered : (outline es).Pairwise fun x y =>
      ∀ i, entryOf? x = some i → ∀ j, entryOf? y = some j → i < j := by
    rw [← List.pairwise_filterMap, filterMap_entryOf?_outline]
    exact List.pairwise_lt_range
  obtain ⟨hr, hir⟩ := List.getElem?_eq_some_iff.mp hi
  obtain ⟨hr', hjr⟩ := List.getElem?_eq_some_iff.mp hj
  have hstep := List.pairwise_iff_getElem.mp hordered r r' hr hr' hlt
  rw [hir, hjr] at hstep
  exact hstep i rfl j rfl

/-- An entry has one line only. -/
theorem line_unique {d : Entry} (h : (outline es)[r]? = some (.entry i e))
    (h' : (outline es)[r']? = some (.entry i d)) : r = r' := by
  rcases Nat.lt_trichotomy r r' with hlt | heq | hlt
  · exact absurd (lt_of_line_lt h h' hlt) (Nat.lt_irrefl i)
  · exact heq
  · exact absurd (lt_of_line_lt h' h hlt) (Nat.lt_irrefl i)

/-- **The cursor's line is found**: it is that of the entry under the cursor, and never
the first line for want of one. -/
theorem getElem?_cursorRow (h : es[i]? = some e) :
    (outline es)[cursorRow (outline es) i]? = some (.entry i e) := by
  obtain ⟨r, hr⟩ := exists_line h
  have hfound : ((outline es).findIdx? fun line => entryOf? line == some i).isSome := by
    rw [List.findIdx?_isSome, List.any_eq_true]
    exact ⟨.entry i e, List.mem_of_getElem? hr, beq_self_eq_true (some i)⟩
  obtain ⟨row, hrow⟩ := Option.isSome_iff_exists.mp hfound
  obtain ⟨hlt, hline, -⟩ := List.findIdx?_eq_some_iff_getElem.mp hrow
  obtain ⟨d, hd⟩ := entryOf?_eq_some_iff.mp (beq_iff_eq.mp hline)
  have hgiven : (outline es)[row]? = some (.entry i d) := by
    rw [List.getElem?_eq_getElem hlt, hd]
  obtain rfl : r = row := line_unique hr hgiven
  rw [cursorRow, hrow]
  exact hr

/-! ## The window -/

variable {previous row height : Nat}

/-- A row is drawn in a window of so many rows from `top` on. -/
def Shows (top height row : Nat) : Prop :=
  top ≤ row ∧ row < top + height

theorem shows_firstShown (hheight : 0 < height) :
    Shows (firstShown previous row height) height row := by
  unfold firstShown Shows
  split <;> [skip; split <;> [skip; split]] <;> omega

/-- A window that shows the row stays. -/
theorem firstShown_of_shows (h : Shows previous height row) :
    firstShown previous row height = previous := by
  obtain ⟨hlow, hhigh⟩ := h
  unfold firstShown
  rw [if_neg (by omega), if_neg (by omega), if_neg (by omega)]

end Sidebar

/-- The row of the screen on which a line is drawn in an area, if the first one drawn
is `top`. -/
def screenRow (a : Area) (top row : Nat) : Nat :=
  a.y + 1 + (row - top)

/-- Where the cursor of the sidebar is after drawing it into an area: on the line `row`
of the outline, that of the entry `e`. -/
structure CursorShown (b : Browser) (c : Canvas) (a : Area) (row : Nat) (e : Taxonomy.Entry) :
    Prop where
  /-- The entry is the one under the cursor, -/
  entry : b.entries[b.sidebarCursor.selected]? = some e
  /-- and the row is that of its line, and no other is. -/
  line_iff : ∀ r, b.sidebarRows[r]? = some (.entry b.sidebarCursor.selected e) ↔ r = row
  /-- The window that is drawn shows the row, -/
  shows : Sidebar.Shows (b.drawSidebar c a).2.drawn.sidebarTop (a.height - 2) row
  /-- and the screen has the line of the entry there, -/
  on_screen :
    let y := screenRow a (b.drawSidebar c a).2.drawn.sidebarTop row
    Canvas.SameRow y (b.drawSidebar c a).1
      ((b.drawSidebarFrame c a).drawCut { Block.inside a with y, height := 1 }
        [Sidebar.entryLine b.palette (a.width - 2) e.label.display
          (b.entryState b.sidebarCursor.selected e)])
  /-- its mark, its label and its count symbol by symbol, -/
  symbols :
    let y := screenRow a (b.drawSidebar c a).2.drawn.sidebarTop row
    Canvas.ShowsLine (b.drawSidebarFrame c a) (b.drawSidebar c a).1 (a.x + 1) y (a.width - 2)
      (Sidebar.entryLine b.palette (a.width - 2) e.label.display
        (b.entryState b.sidebarCursor.selected e))
  /-- between its borders. -/
  between :
    let y := screenRow a (b.drawSidebar c a).2.drawn.sidebarTop row
    a.y < y ∧ y + 1 < a.bottom
  /-- The window stays if it showed the row before. -/
  top_eq : Sidebar.Shows b.drawn.sidebarTop (a.height - 2) row →
    (b.drawSidebar c a).2.drawn.sidebarTop = b.drawn.sidebarTop

variable {b : Browser} {a : Area} {row : Nat}

/-- A line that the window shows is drawn between the borders. -/
theorem screenRow_between {top : Nat} (h : Sidebar.Shows top (a.height - 2) row) :
    a.y < screenRow a top row ∧ screenRow a top row + 1 < a.bottom := by
  obtain ⟨hlow, hhigh⟩ := h
  unfold screenRow Area.bottom
  omega

/-- A line that the window shows is drawn on its row of the screen. -/
theorem shownRow?_screenRow (h : Sidebar.Shows (b.sidebarTop b.sidebarRows a) (a.height - 2) row) :
    b.shownRow? a (screenRow a (b.sidebarTop b.sidebarRows a) row) = b.sidebarRows[row]? := by
  have hrow : b.sidebarTop b.sidebarRows a +
      (screenRow a (b.sidebarTop b.sidebarRows a) row - (a.y + 1)) = row := by
    have hlow := h.1
    unfold screenRow
    omega
  rw [shownRow?, if_pos (screenRow_between h), hrow]

/-- **The cursor of the sidebar is always on the screen**: for every taxonomy with an
entry under the cursor, whatever was drawn before, and every area with room for a line. -/
theorem cursorShown_drawSidebar (b : Browser) (c : Canvas) (a : Area)
    (hcursor : b.sidebarCursor.selected < b.entries.length) (hheight : 3 ≤ a.height) :
    ∃ row e, b.CursorShown c a row e := by
  obtain ⟨e, he⟩ : ∃ e, b.entries[b.sidebarCursor.selected]? = some e :=
    ⟨_, List.getElem?_eq_getElem hcursor⟩
  have hentries : b.entries ≠ [] := List.ne_nil_of_length_pos (Nat.zero_lt_of_lt hcursor)
  have htop : (b.drawSidebar c a).2.drawn.sidebarTop = b.sidebarTop b.sidebarRows a :=
    (b.drawn_drawSidebar c a).2.2 hentries
  generalize hrow : Sidebar.cursorRow b.sidebarRows b.sidebarCursor.selected = row
  have hline : b.sidebarRows[row]? = some (.entry b.sidebarCursor.selected e) := by
    rw [← hrow]
    exact Sidebar.getElem?_cursorRow he
  have hshows : Sidebar.Shows (b.sidebarTop b.sidebarRows a) (a.height - 2) row := by
    rw [← hrow]
    exact Sidebar.shows_firstShown (by omega)
  refine ⟨row, e, he, ?_, ?_, ?_, ?_, ?_, ?_⟩
  · intro r
    constructor
    · intro hr
      exact Sidebar.line_unique hr hline
    · rintro rfl
      exact hline
  · rw [htop]
    exact hshows
  · have hscreen := b.sameRow_drawSidebar c a
      (screenRow a (b.sidebarTop b.sidebarRows a) row) hentries
    rw [shownRow?_screenRow hshows, hline] at hscreen
    rw [htop]
    exact hscreen
  · rw [htop]
    exact b.showsLine_drawSidebar c a ((shownRow?_screenRow hshows).trans hline)
  · rw [htop]
    exact screenRow_between hshows
  · intro hbefore
    rw [htop, sidebarTop, hrow]
    exact Sidebar.firstShown_of_shows hbefore

/-- The cursor went from the last of twelve entries to the first, and the screen was made
smaller meanwhile: the window, which started with the fifth line, moves up to the third. -/
theorem cursorShown_drawSidebar_of_run :
    let keys := ["k00", "k01", "k02", "k03", "k04", "k05", "k06", "k07", "k08", "k09", "k10", "k11"]
    let t := keys.foldl
      (fun t key => t.insert "Category" "Group" key { name := key }) Taxonomy.empty
    let b := (new { browse := { showWelcome := false } }).run
      [.loadedTaxonomy (.ok t), .key { key := .tab }, .key { key := .endKey }, .draw 100 15,
        .key { key := .home }]
    let a : Area := { y := 1, width := 34, height := 6 }
    b.sidebarCursor.selected < b.entries.length ∧ 3 ≤ a.height ∧ b.drawn.sidebarTop = 4 ∧
      (∃ row e, b.CursorShown (.blank 100 9) a row e) ∧
      (b.drawSidebar (.blank 100 9) a).2.drawn.sidebarTop = 2 := by
  intro keys t b a
  have hcursor : b.sidebarCursor.selected < b.entries.length := by decide +kernel
  have hbefore : b.drawn.sidebarTop = 4 := by decide +kernel
  have hafter : (b.drawSidebar (.blank 100 9) a).2.drawn.sidebarTop = 2 := by decide +kernel
  have hshown := cursorShown_drawSidebar b (.blank 100 9) a hcursor (by decide)
  exact ⟨hcursor, by decide, hbefore, hshown, hafter⟩

end DefectCatalog.Browser
