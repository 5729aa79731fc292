import DefectCatalog.Browser.State
import DefectCatalog.Proofs.Browser.Cursor
import DefectCatalog.Proofs.View.Addressed

/-!
# The screen follows the view

The browser hears of the view only through its events, and when it hears them
the view has moved on: the lengths it takes are those of the view in the end,
not of the view that queued the event.  `Follows v b` says what nevertheless
holds of a browser that has heard the events up to an intermediate view `v`:
the list cursor is on the open position of `v` if the list has so many rows in
the end, and the lengths are those of `v` or the final ones.

The local fact is `Move.guides`, one move at a time; it composes
(`Guides.trans`).
-/

namespace DefectCatalog

namespace Browser

open View (Event Move Moves)

/-- The browser, whose view is `b.view` in the end, has heard the events up to `v`. -/
structure Follows (v : View) (b : Browser) : Prop where
  list_total : b.list.total = b.view.visibleSize ∨ b.list.total = v.visibleSize
  list_fits : b.list.Fits
  /-- The open position is selected, unless the list ends before it. -/
  list_open : ∀ p, v.detail = .on p → p < b.view.visibleSize → b.list.selected = p
  sidebar_total : b.sidebarCursor.total = b.view.taxonomy.size ∨
    b.sidebarCursor.total = v.taxonomy.size
  sidebar_fits : b.sidebarCursor.Fits

/-- The patch starts at its first line, unless nothing else was opened since `start`. -/
def PatchFollows (start v : View) (b : Browser) : Prop :=
  v.detail = .closed ∨ b.patchTop = 0 ∨ start.detail ≠ .closed ∧ v.route = start.route

variable {u v w : View} {b : Browser} {es fs : List Event}

/-- Following events moves the cursors and the patch, and nothing else. -/
theorem foldl_follow_eq_with (b : Browser) (es : List Event) :
    ∃ list sidebarCursor patchTop,
      es.foldl follow b = { b with list, sidebarCursor, patchTop } := by
  induction es generalizing b with
  | nil => exact ⟨b.list, b.sidebarCursor, b.patchTop, rfl⟩
  | cons e es ih =>
      obtain ⟨list, sidebarCursor, patchTop, heq⟩ := ih (b.follow e)
      refine ⟨list, sidebarCursor, patchTop, heq.trans ?_⟩
      cases e <;> rfl

/-- Catching up takes the events, and moves the cursors and the patch. -/
theorem catchUp_eq_with (b : Browser) :
    ∃ list sidebarCursor patchTop,
      b.catchUp = { b with view := b.view.drain.2, list, sidebarCursor, patchTop } :=
  foldl_follow_eq_with { b with view := b.view.drain.2 } b.view.pending

theorem view_catchUp (b : Browser) : b.catchUp.view = b.view.drain.2 := by
  obtain ⟨_, _, _, heq⟩ := b.catchUp_eq_with
  rw [heq]

/-- An announced list gives the cursors their final lengths, whatever it was. -/
theorem Follows.listChanged (h : Follows u b) (hdetail : v.detail = u.detail) :
    Follows v (b.follow .listChanged) where
  list_total := Or.inl rfl
  list_fits := Cursor.fits_resize _ _
  list_open := by
    intro p hp hlt
    have hselected := h.list_open p (hdetail ▸ hp) hlt
    rw [← hselected] at hlt ⊢
    exact Cursor.selected_resize hlt
  sidebar_total := Or.inl rfl
  sidebar_fits := Cursor.fits_resize _ _

/-- A position that is shown is selected. -/
theorem Follows.select (h : Follows u b) {p : Nat} (hvisible : v.visible = u.visible)
    (htaxonomy : v.taxonomy = u.taxonomy) (hp : v.detail = .on p) (hlt : p < v.visibleSize) :
    Follows v { b with list := b.list.select p, patchTop := 0 } where
  list_total := by
    rw [View.visibleSize, View.visibleSize, hvisible]
    exact h.list_total
  list_fits := Cursor.fits_select _ _
  list_open := by
    intro q hq hlt'
    obtain rfl : p = q := Detail.on.inj (hp.symm.trans hq)
    apply Cursor.selected_select
    rcases h.list_total with htotal | htotal
    · rw [htotal]
      exact hlt'
    · rw [htotal, View.visibleSize, ← hvisible]
      exact hlt
  sidebar_total := by
    rw [htaxonomy]
    exact h.sidebar_total
  sidebar_fits := h.sidebar_fits

/-- Without an event, the same list and detail are followed as before. -/
theorem Follows.same (h : Follows u b) (hvisible : v.visible = u.visible)
    (htaxonomy : v.taxonomy = u.taxonomy) (hdetail : v.detail = .closed ∨ v.detail = u.detail) :
    Follows v b where
  list_total := by
    rw [View.visibleSize, View.visibleSize, hvisible]
    exact h.list_total
  list_fits := h.list_fits
  list_open := by
    intro p hp
    rcases hdetail with hclosed | hsame
    · rw [hp] at hclosed
      cases hclosed
    · exact h.list_open p (hsame ▸ hp)
  sidebar_total := by
    rw [htaxonomy]
    exact h.sidebar_total
  sidebar_fits := h.sidebar_fits

/-- The events of a change of the detail lead the list cursor to the new position. -/
theorem Follows.detailEvents (h : Follows u b) (always : Bool) (hvisible : v.visible = u.visible)
    (htaxonomy : v.taxonomy = u.taxonomy) (hin : ∀ p, v.detail = .on p → p < v.visibleSize) :
    Follows v ((View.detailEvents always u.detail v.detail).foldl follow b) := by
  cases hnew : v.detail with
  | closed =>
      have hsame := h.same hvisible htaxonomy (Or.inl hnew)
      cases u.detail <;> exact hsame
  | on q =>
      have hselect := h.select hvisible htaxonomy hnew (hin q hnew)
      cases hold : u.detail with
      | closed => exact hselect
      | on p =>
          rw [View.detailEvents_on_on]
          split
          · exact hselect
          · next hquiet =>
              simp only [Bool.or_eq_true, bne_iff_ne, not_or, Decidable.not_not] at hquiet
              have hstays : v.detail = u.detail := by rw [hnew, hold, hquiet.2]
              exact h.same hvisible htaxonomy (Or.inr hstays)

/-- A change of the detail restarts the patch, unless the open position stays and
is not reported. -/
theorem patchTop_detailEvents (always : Bool) (old new : Detail) :
    new = .closed ∨ ((View.detailEvents always old new).foldl follow b).patchTop = 0 ∨
      always = false ∧ old ≠ .closed ∧
        ((View.detailEvents always old new).foldl follow b).patchTop = b.patchTop := by
  cases new with
  | closed => exact Or.inl rfl
  | on q =>
      right
      cases old with
      | closed => exact Or.inl rfl
      | on p =>
          rw [View.detailEvents_on_on]
          split
          · exact Or.inl rfl
          · next hquiet =>
              simp only [Bool.or_eq_true, bne_iff_ne, not_or, Bool.not_eq_true] at hquiet
              exact Or.inr ⟨hquiet.1, Detail.noConfusion, rfl⟩

/-- The events `es` guide a browser that has heard the events up to `v` to `w`. -/
structure Guides (v : View) (es : List Event) (w : View) : Prop where
  /-- The events are what `w` has queued after `v`. -/
  queued : w.pending = v.pending ++ es
  cursors : ∀ b, Follows v b → Follows w (es.foldl follow b)
  patch : ∀ start b, PatchFollows start v b → PatchFollows start w (es.foldl follow b)

/-- No events are needed to stay. -/
theorem Guides.refl (v : View) : Guides v [] v :=
  ⟨(List.append_nil _).symm, fun _ h => h, fun _ _ h => h⟩

/-- **Guidance composes.** -/
theorem Guides.trans (huv : Guides u es v) (hvw : Guides v fs w) : Guides u (es ++ fs) w where
  queued := by rw [hvw.queued, huv.queued, List.append_assoc]
  cursors := by
    intro b h
    rw [List.foldl_append]
    exact hvw.cursors _ (huv.cursors b h)
  patch := by
    intro start b h
    rw [List.foldl_append]
    exact hvw.patch start _ (huv.patch start b h)

/-- Announcing a list whose route and detail stay guides to it. -/
theorem guides_listChanged (hpending : w.pending = v.pending) (hdetail : w.detail = v.detail)
    (hroute : w.route = v.route) : Guides v [.listChanged] (w.emit .listChanged) where
  queued := congrArg (· ++ _) hpending
  cursors := fun _ h => h.listChanged hdetail
  patch := by
    rintro start b (hclosed | hzero | ⟨hopen, hsame⟩)
    · exact Or.inl (hdetail.trans hclosed)
    · exact Or.inr (Or.inl hzero)
    · exact Or.inr (Or.inr ⟨hopen, hroute.trans hsame⟩)

/-- Following the route quietly guides to the new position. -/
theorem guides_followRoute
    (hin : ∀ p, (v.followRoute false).detail = .on p → p < (v.followRoute false).visibleSize) :
    Guides v (View.detailEvents false v.detail (v.followRoute false).detail)
      (v.followRoute false) where
  queued := rfl
  cursors := fun _ h => h.detailEvents false rfl rfl hin
  patch := by
    intro start b h
    rcases patchTop_detailEvents false v.detail (v.followRoute false).detail with
      hclosed | hzero | ⟨-, hopen, hkept⟩
    · exact Or.inl hclosed
    · exact Or.inr (Or.inl hzero)
    · rcases h with hclosed | hzero | hstart
      · exact absurd hclosed hopen
      · exact Or.inr (Or.inl (hkept.trans hzero))
      · exact Or.inr (Or.inr hstart)

/-- Following a route and saying so guides to the new position, whatever the
route was before. -/
theorem guides_followRoute_always (es : List Event) (hvisible : w.visible = v.visible)
    (htaxonomy : w.taxonomy = v.taxonomy) (hin : ∀ p, w.detail = .on p → p < w.visibleSize)
    (hpending : w.pending = v.pending ++ es ++ View.detailEvents true v.detail w.detail)
    (hes : ∀ b : Browser, es.foldl follow b = b) :
    Guides v (es ++ View.detailEvents true v.detail w.detail) w where
  queued := by rw [hpending, List.append_assoc]
  cursors := by
    intro b h
    rw [List.foldl_append, hes]
    exact h.detailEvents true hvisible htaxonomy hin
  patch := by
    intro start b _
    rw [List.foldl_append, hes]
    rcases patchTop_detailEvents true v.detail w.detail with hclosed | hzero | ⟨htrue, -⟩
    · exact Or.inl hclosed
    · exact Or.inr (Or.inl hzero)
    · cases htrue

/-- Deriving everything again guides to what was derived. -/
theorem guides_refresh (hpending : w.pending = v.pending) (hdetail : w.detail = v.detail)
    (hroute : w.route = v.route) : ∃ es, Guides v es w.refresh :=
  ⟨_, (guides_listChanged (w := { w with
      visible := (View.arrange w.filters w.mode w.sort w.records).map Prod.snd })
    hpending hdetail hroute).trans
      (guides_followRoute fun _ hp => (View.settled_refresh w).lt_of_on hp)⟩

/-- **A move guides the screen.**  A browser that followed the view before a move
and hears the events of the move follows the view after it. -/
theorem guides_of_move (hv : v.Settled) (hmove : Move v w) : ∃ es, Guides v es w := by
  have hin : ∀ p, w.detail = .on p → p < w.visibleSize := fun _ hp => (hv.move hmove).lt_of_on hp
  cases hmove with
  | remember key =>
      obtain ⟨counts, heq⟩ := v.count_eq_with_counts key
      rw [heq]
      exact ⟨[], (List.append_nil _).symm,
        fun _ h => ⟨h.list_total, h.list_fits, h.list_open, h.sidebar_total, h.sidebar_fits⟩,
        fun _ _ h => h⟩
  | relabel taxonomy => exact ⟨_, guides_listChanged rfl rfl rfl⟩
  | load records => exact guides_refresh rfl rfl rfl
  | choose filters mode sort => exact guides_refresh rfl rfl rfl
  | stay =>
      exact ⟨_, guides_followRoute_always [] rfl rfl hin
        (congrArg (· ++ _) (List.append_nil _).symm) fun _ => rfl⟩
  | enter r hr =>
      exact ⟨_, guides_followRoute_always [.routeChanged r] rfl rfl hin rfl fun _ => rfl⟩
  | leave history hback =>
      exact ⟨_, guides_followRoute_always [.routeChanged history.current] rfl rfl hin rfl
        fun _ => rfl⟩

/-- Moves guide the screen. -/
theorem guides_of_moves (hv : v.Settled) (hmoves : v.Moves w) : ∃ es, Guides v es w := by
  induction hmoves with
  | refl => exact ⟨[], .refl v⟩
  | tail hfirst hlast ih =>
      obtain ⟨es, hes⟩ := ih
      obtain ⟨fs, hfs⟩ := guides_of_move (hv.moves hfirst) hlast
      exact ⟨es ++ fs, hes.trans hfs⟩

end Browser

end DefectCatalog
