import DefectCatalog.Proofs.Browser.Frames

/-!
# The screen stays in step with the view

The cursors and the patch are not derived from the view: they follow it by its
events, and a step may queue many of them before the first is heard.  This file
says that nothing is lost on the way.  After every step the lengths are those of
the view, each cursor is on a row, and the open record is the selected one; and
a record that was not open before the step is shown from the first line of its
patch (`keeps_step`).

A batch of operations on the view that drains the queue keeps its events from the
browser (`stale_after_drain`), so runs are those that take no event away
(`KeepsEvents`).

Between steps more holds than is in step: the view is settled and all its events
were heard (`Ready`).  This is what a step preserves.
-/

namespace DefectCatalog

/-- The route of a settled view is that of the open record. -/
theorem View.Settled.route_of_openRecord {v : View} (h : v.Settled) {r : Record}
    (hr : v.openRecord? = some r) : v.route = .ofRecord r := by
  rw [h.openRecord?_eq] at hr
  exact Route.leadsTo_iff.mp (List.find?_some hr)

namespace Browser

open View (Event Moves)

/-- The cursors of the screen are where the view calls for them. -/
structure InStep (b : Browser) : Prop where
  list_total : b.list.total = b.view.visibleSize
  list_fits : b.list.Fits
  /-- The open position is selected. -/
  list_open : ∀ p, b.view.detail = .on p → b.list.selected = p
  sidebar_total : b.sidebarCursor.total = b.view.taxonomy.size
  sidebar_fits : b.sidebarCursor.Fits

/-- What holds between steps: the screen is in step with a view that is settled,
and heard all of its events. -/
structure Ready (b : Browser) : Prop extends InStep b where
  settled : b.view.Settled
  heard : b.view.pending = []

/-- A record is open in `b'` that was not open in `b`. -/
def Reopens (b b' : Browser) : Prop :=
  ∃ r, b'.view.openRecord? = some r ∧
    ∀ q, b.view.openRecord? = some q → (q.project, q.commit) ≠ (r.project, r.commit)

/-- What a step from `b` to `b'` keeps. -/
structure Keeps (b b' : Browser) : Prop where
  inStep : b'.InStep
  /-- Another record is shown from the first line of its patch. -/
  patch : Reopens b b' → b'.patchTop = 0

variable {b b' : Browser}

/-- A browser that starts is ready. -/
theorem ready_new (s : Settings) : (new s).Ready where
  list_total := rfl
  list_fits := Or.inr ⟨rfl, rfl⟩
  list_open := fun _ hp => Detail.noConfusion hp
  sidebar_total := rfl
  sidebar_fits := Or.inr ⟨rfl, rfl⟩
  settled := View.settled_new _ _
  heard := rfl

/-- A ready browser follows its view, also when it was handled and the view moved on. -/
theorem Ready.follows (h : b.Ready) (hhand : Handled b b') (w : View) :
    Follows b.view { b' with view := w } where
  list_total := Or.inr (hhand.list_total.trans h.list_total)
  list_fits := hhand.list_fits h.list_fits
  list_open := by
    intro p hp _
    have hopen : b.view.detail ≠ .closed := by
      rw [hp]
      exact Detail.noConfusion
    have hlist : b'.list = b.list := hhand.list_eq hopen
    show b'.list.selected = p
    rw [hlist]
    exact h.list_open p hp
  sidebar_total := Or.inr (hhand.sidebar_total.trans h.sidebar_total)
  sidebar_fits := hhand.sidebar_fits h.sidebar_fits

/-- No patch is out of place while nothing else was opened. -/
theorem patchFollows_self (v : View) (b : Browser) : PatchFollows v v b := by
  by_cases hclosed : v.detail = .closed
  · exact Or.inl hclosed
  · exact Or.inr (Or.inr ⟨hclosed, rfl⟩)

/-- A browser that follows its own settled view is in step with it. -/
theorem Follows.inStep (h : Follows b.view b) (hsettled : b.view.Settled) : b.InStep where
  list_total := h.list_total.elim id id
  list_fits := h.list_fits
  list_open := fun p hp => h.list_open p hp (hsettled.lt_of_on hp)
  sidebar_total := h.sidebar_total.elim id id
  sidebar_fits := h.sidebar_fits

/-- Draining the queue changes nothing that is followed. -/
theorem Follows.drain {v : View} (h : Follows v b) : Follows v.drain.2 b :=
  ⟨h.list_total, h.list_fits, h.list_open, h.sidebar_total, h.sidebar_fits⟩

/-- **Following moves of the view makes the browser ready again.** -/
theorem Ready.catchUp (h : b.Ready) (hhand : Handled b b') (hmoves : b.view.Moves b'.view) :
    b'.catchUp.Ready ∧ PatchFollows b.view b'.catchUp.view b'.catchUp := by
  obtain ⟨es, hes⟩ := guides_of_moves h.settled hmoves
  have hqueue : b'.view.pending = es := by rw [hes.queued, h.heard, List.nil_append]
  have heq : b'.catchUp = es.foldl follow { b' with view := b'.view.drain.2 } := by
    rw [← hqueue]
    rfl
  have hview : b'.catchUp.view = b'.view.drain.2 := b'.view_catchUp
  have hfollows := (hes.cursors _ (h.follows hhand b'.view.drain.2)).drain
  have hpatch := hes.patch b.view { b' with view := b'.view.drain.2 } (patchFollows_self _ _)
  have hsettled : b'.catchUp.view.Settled := by
    rw [hview]
    exact (h.settled.moves hmoves).drain
  rw [← heq, ← hview] at hfollows
  rw [← heq] at hpatch
  refine ⟨⟨hfollows.inStep hsettled, hsettled, ?_⟩, ?_⟩
  · rw [hview]
    rfl
  · rw [hview]
    exact hpatch

/-- What a step does leaves a ready browser ready. -/
theorem Ready.acts (h : b.Ready) (hacts : Acts b b') : b'.Ready := by
  cases hacts with
  | aside hhand hview =>
      have hfollows := h.follows hhand b.view
      have hsettled := h.settled
      have hheard := h.heard
      rw [← hview] at hfollows hsettled hheard
      exact ⟨hfollows.inStep hsettled, hsettled, hheard⟩
  | follow hhand hmoves => exact (h.catchUp hhand hmoves).1

/-- What a step does shows another record from the first line of its patch. -/
theorem Ready.patchTop_of_reopens (h : b.Ready) (hacts : Acts b b') (hreopens : Reopens b b') :
    b'.patchTop = 0 := by
  obtain ⟨r, hr, hother⟩ := hreopens
  cases hacts with
  | aside hhand hview =>
      rw [hview] at hr
      exact absurd rfl (hother r hr)
  | follow hhand hmoves =>
      obtain ⟨hready, hclosed | hzero | ⟨hopen, hroute⟩⟩ := h.catchUp hhand hmoves
      · rw [View.openRecord?, hclosed] at hr
        cases hr
      · exact hzero
      · cases hp : b.view.detail with
        | closed => exact absurd hp hopen
        | on p =>
            obtain ⟨q, -, hq, hroute'⟩ := h.settled.record_of_on hp
            have hsame : Route.ofRecord r = Route.ofRecord q := by
              rw [← hready.settled.route_of_openRecord hr, hroute, hroute']
            obtain ⟨hproject, hcommit⟩ := Route.bug.inj hsame
            exact absurd (by rw [hproject, hcommit]) (hother q hq)

/-- Steps leave the view's events to the browser, each at its time. -/
def KeepsEvents (b : Browser) : List Step → Prop
  | [] => True
  | st :: steps => b.TakesNoEvent st ∧ (b.step st).KeepsEvents steps

theorem keepsEvents_append {steps later : List Step} :
    b.KeepsEvents (steps ++ later) ↔
      b.KeepsEvents steps ∧ (b.run steps).KeepsEvents later := by
  induction steps generalizing b with
  | nil => exact (and_iff_right trivial).symm
  | cons st steps ih =>
      rw [List.cons_append, KeepsEvents, ih, KeepsEvents, and_assoc]
      rfl

/-- A run leaves a ready browser ready. -/
theorem Ready.run (h : b.Ready) (steps : List Step) (hsteps : b.KeepsEvents steps) :
    (b.run steps).Ready := by
  induction steps generalizing b with
  | nil => exact h
  | cons st steps ih => exact ih (h.acts (b.step_acts hsteps.1)) hsteps.2

/-- **The screen stays in step with the view.**  From every settings and after
every run that leaves the events to the browser, a step leaves the cursors where the view
calls for them, and shows another record from the first line of its patch. -/
theorem keeps_step (s : Settings) (steps : List Step) (st : Step)
    (h : (new s).KeepsEvents (steps ++ [st])) :
    Keeps ((new s).run steps) (((new s).run steps).step st) := by
  obtain ⟨hsteps, hst, -⟩ := keepsEvents_append.mp h
  have hready := (ready_new s).run steps hsteps
  have hacts := ((new s).run steps).step_acts hst
  exact ⟨(hready.acts hacts).toInStep, hready.patchTop_of_reopens hacts⟩

/-- Two bugs are loaded, one of them is opened and the list narrowed and widened
again before the browser hears of it, and a key opens the next one.  The batch drains the
queue while it is empty. -/
theorem keeps_step_of_batch :
    let steps : List Step :=
      [.enterAt .list,
        .loadedRecords (.ok [⟨"Chart", "1", "", .empty⟩, ⟨"Chart", "2", "", .empty⟩]),
        .view [.drain, .navigate (.bug "Chart" "2"), .setFilter "wrong-order" true, .resetFilters]]
    let b := (new {}).run steps
    (new {}).KeepsEvents (steps ++ [.key { key := .right }]) ∧
      Keeps b (b.step (.key { key := .right })) := by
  intro steps b
  have hkeeps : (new {}).KeepsEvents (steps ++ [.key { key := .right }]) := by
    refine ⟨trivial, trivial, ⟨fun _ => rfl, ?_⟩, trivial, trivial⟩
    exact View.takesNoEvent_of_not_mem (by simp)
  exact ⟨hkeeps, keeps_step {} steps _ hkeeps⟩

/-- **A drained batch leaves the cursors behind.**  Its records are not announced to the
browser, so the list goes on having no rows.  And not every frame is drawn: a column as wide
as a word of sixteen bits overflows the layout, and the program ends with the frame. -/
theorem stale_after_drain :
    let drained := (new {}).step (.view [.setRecords [Record.new "A" "1"], .drain])
    let wide : Settings := { browse := { columns := [⟨"Project", ["project"], 65535⟩] } }
    let crowded := (new wide).run [.loadedRecords (.ok [Record.new "A" "1"])]
    (drained.list.total = 0 ∧ drained.view.visibleSize = 1 ∧ ¬ Keeps (new {}) drained) ∧
      (crowded.draw 100 15).1 = none := by
  intro drained wide crowded
  constructor
  · have htotal : drained.list.total = 0 := by decide +kernel
    have hvisible : drained.view.visibleSize = 1 := by decide +kernel
    refine ⟨htotal, hvisible, fun hkeeps => ?_⟩
    have heq := hkeeps.inStep.list_total
    rw [htotal, hvisible] at heq
    cases heq
  · have hrows : crowded.view.visibleSize ≠ 0 := by decide +kernel
    have hcolumns : crowded.columns = wide.browse.columns := columns_run _ _
    have hover : BugTable.columnsWidth? wide.browse.columns = none := by decide
    exact (crowded.draw_eq_none_iff 100 15).mpr ⟨by decide, Or.inl ⟨hrows, hcolumns ▸ hover⟩⟩

end Browser

end DefectCatalog
