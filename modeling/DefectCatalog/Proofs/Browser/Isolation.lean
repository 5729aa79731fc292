import DefectCatalog.Proofs.Browser.InStep
import DefectCatalog.Proofs.View.BackStack

/-!
# What keys and the mouse cannot reach

A panel covers the open bug and the list, and an open bug covers the list.  A key or
a click reaches only what is on top: beneath a panel everything stays as it is
(`Covered`), and behind an open bug only the route changes and what it leads to
(`Behind`).

The way out of an open bug leads along routes.  That announces no list (`Wanders`),
and without such an event the cursor of the sidebar does not move
(`foldl_follow_eq_of_not_mem`).
-/

namespace DefectCatalog

namespace View

/-- What has changed from `v` to `w` is at most the route, the detail and events that
announce no list. -/
def Wanders (v w : View) : Prop :=
  ∃ history detail es,
    w = { v with history, detail, pending := v.pending ++ es } ∧ .listChanged ∉ es

variable {v w : View}

/-- A change of the detail announces no list. -/
theorem listChanged_not_mem_detailEvents (always : Bool) (old new : Detail) :
    .listChanged ∉ detailEvents always old new := by
  cases old with
  | closed => cases new <;> simp [detailEvents]
  | on p =>
      cases new with
      | closed => simp [detailEvents]
      | on q =>
          rw [detailEvents_on_on]
          split <;> simp

theorem Wanders.refl (v : View) : v.Wanders v :=
  ⟨v.history, v.detail, [], by rw [List.append_nil], List.not_mem_nil⟩

/-- Making another route current, and saying so. -/
theorem wanders_emit_routeChanged (v : View) (history : History) (r : Route) :
    v.Wanders (emit { v with history } (.routeChanged r)) :=
  ⟨history, v.detail, [.routeChanged r], rfl, by simp⟩

/-- Following the route, a view wanders on. -/
theorem Wanders.followRoute (h : v.Wanders w) : v.Wanders (w.followRoute true) := by
  obtain ⟨history, detail, es, rfl, hes⟩ := h
  generalize hw : { v with history, detail, pending := v.pending ++ es } = w
  refine ⟨history, Detail.ofPosition? w.resolved?,
    es ++ detailEvents true detail (Detail.ofPosition? w.resolved?), ?_, ?_⟩
  · subst hw
    rw [← List.append_assoc]
    rfl
  · rw [List.mem_append, not_or]
    exact ⟨hes, listChanged_not_mem_detailEvents true _ _⟩

/-- Going to a route is wandering. -/
theorem wanders_navigate (v : View) (r : Route) : v.Wanders (v.navigate r) := by
  unfold navigate
  split
  · exact (Wanders.refl v).followRoute
  · exact (v.wanders_emit_routeChanged _ r).followRoute

/-- Travelling is wandering. -/
theorem Operation.Travels.wanders {op : Operation} (hop : op.Travels) (v : View) :
    v.Wanders (v.perform op).2 := by
  rcases hop.perform_eq v with heq | ⟨r, heq⟩
  · rw [heq]
    exact .refl v
  · rw [heq]
    exact v.wanders_navigate r

/-- Going back is wandering. -/
theorem wanders_back (v : View) : v.Wanders v.back.2 := by
  unfold back
  split
  · exact (v.wanders_emit_routeChanged _ _).followRoute
  · exact .refl v

end View

namespace Browser

open View (Event)

/-- From `b` to `b'` nothing has changed but the panel, the message in the footer and
the wish to quit. -/
def Covered (b b' : Browser) : Prop :=
  ∃ overlay status quits, b' = { b with overlay, status, quits }

/-- From `b` to `b'` nothing has changed but the route with what it leads to (the
detail, the list's cursor, the patch), the theme, and what a panel lets change. -/
def Behind (b b' : Browser) : Prop :=
  ∃ history detail list patchTop theme overlay status quits,
    b' = { b with
      view := { b.view with history, detail }, list, patchTop, theme, overlay, status, quits }

/-- What the keys and the mouse cannot reach. -/
structure Isolated (b : Browser) : Prop where
  /-- A panel keeps every key from what is beneath it, -/
  key_covered : b.overlay.isShown → ∀ e, Covered b (b.handleKey e)
  /-- and the mouse as well. -/
  mouse_covered : b.overlay.isShown → ∀ e, Covered b (b.handleMouse e)
  /-- An open bug keeps every key from the list behind it, -/
  key_behind : b.overlay.isShown = false → b.isDetailOpen → ∀ e, Behind b (b.handleKey e)
  /-- and the mouse as well. -/
  mouse_behind : b.overlay.isShown = false → b.isDetailOpen → ∀ e, Behind b (b.handleMouse e)
  /-- A key event that is no press does nothing. -/
  released : ∀ e : KeyEvent, e.released → b.handleKey e = b
  /-- Without mouse support the mouse does nothing. -/
  mouseless : b.mouse = false → ∀ e, b.handleMouse e = b

variable {b b₁ b₂ : Browser} {w : View}

/-! ## Beneath a panel -/

theorem Covered.refl (b : Browser) : Covered b b :=
  ⟨b.overlay, b.status, b.quits, rfl⟩

/-- Two changes in front of the panel are one. -/
theorem Covered.trans (h₁ : Covered b b₁) (h₂ : Covered b₁ b₂) : Covered b b₂ := by
  obtain ⟨_, _, _, rfl⟩ := h₁
  obtain ⟨overlay, status, quits, rfl⟩ := h₂
  exact ⟨overlay, status, quits, rfl⟩

/-- A key of the help panel reaches nothing behind it. -/
theorem helpKey_covered (b : Browser) (key : Key) : Covered b (b.helpKey key) := by
  unfold helpKey
  split
  case h_4 => exact .refl b
  all_goals exact ⟨_, _, _, rfl⟩

/-- **A key reaches nothing behind a panel.** -/
theorem handleKey_covered (hshown : b.overlay.isShown) (e : KeyEvent) :
    Covered b (b.handleKey e) := by
  have hpanel : b.overlay.panel ≠ none := Option.isSome_iff_ne_none.mp hshown
  have hnews : Covered b { b with status := b.status.dismissNews } := ⟨_, _, _, rfl⟩
  unfold handleKey
  dsimp only
  split
  · exact .refl b
  · split
    · exact hnews.trans ⟨_, _, _, rfl⟩
    · split
      · exact hnews.trans ⟨_, _, _, rfl⟩
      · exact hnews.trans (helpKey_covered _ e.key)
      · next hnone => exact absurd hnone hpanel

/-- **The mouse reaches nothing behind a panel.** -/
theorem handleMouse_covered (hshown : b.overlay.isShown) (e : MouseEvent) :
    Covered b (b.handleMouse e) := by
  unfold handleMouse
  rw [hshown, Bool.or_true, if_pos rfl]
  exact .refl b

/-! ## Behind an open bug -/

/-- Following events that announce no list moves the list's cursor and the patch, and
nothing else. -/
theorem foldl_follow_eq_of_not_mem (b : Browser) {es : List Event} (hes : .listChanged ∉ es) :
    ∃ list patchTop, es.foldl follow b = { b with list, patchTop } := by
  induction es generalizing b with
  | nil => exact ⟨b.list, b.patchTop, rfl⟩
  | cons e es ih =>
      rw [List.mem_cons, not_or] at hes
      obtain ⟨list, patchTop, heq⟩ := ih (b.follow e) hes.2
      refine ⟨list, patchTop, heq.trans ?_⟩
      cases e with
      | listChanged => exact absurd rfl hes.1
      | opened | updated | closed | routeChanged => rfl

theorem Behind.refl (b : Browser) : Behind b b :=
  ⟨b.view.history, b.view.detail, b.list, b.patchTop, b.theme, b.overlay, b.status, b.quits, rfl⟩

/-- Two changes that leave it alone are one. -/
theorem Behind.trans (h₁ : Behind b b₁) (h₂ : Behind b₁ b₂) : Behind b b₂ := by
  obtain ⟨_, _, _, _, _, _, _, _, rfl⟩ := h₁
  obtain ⟨history, detail, list, patchTop, theme, overlay, status, quits, rfl⟩ := h₂
  exact ⟨history, detail, list, patchTop, theme, overlay, status, quits, rfl⟩

/-- What a panel lets change, an open bug lets change. -/
theorem Covered.behind (h : Covered b b₁) : Behind b b₁ := by
  obtain ⟨overlay, status, quits, rfl⟩ := h
  exact ⟨b.view.history, b.view.detail, b.list, b.patchTop, b.theme, overlay, status, quits, rfl⟩

/-- **Following a view that wandered** leaves the list behind an open bug alone, if all
events before were heard. -/
theorem behind_catchUp (hheard : b.view.pending = []) (hw : b.view.Wanders w) :
    Behind b { b with view := w }.catchUp := by
  obtain ⟨history, detail, es, rfl, hes⟩ := hw
  obtain ⟨list, patchTop, heq⟩ := foldl_follow_eq_of_not_mem
    { b with view := { b.view with history, detail, pending := [] } } hes
  refine ⟨history, detail, list, patchTop, b.theme, b.overlay, b.status, b.quits, ?_⟩
  dsimp only
  rw [hheard, List.nil_append]
  exact heq

/-- Letting the view travel, and following it. -/
theorem act_behind (hheard : b.view.pending = []) {op : View.Operation} (hop : op.Travels) :
    Behind b (b.act op) :=
  behind_catchUp hheard (hop.wanders b.view)

/-- Going back leaves the list behind the bug alone. -/
theorem returnToLast_behind (hheard : b.view.pending = []) : Behind b b.returnToLast := by
  unfold returnToLast
  dsimp only
  split
  · exact behind_catchUp hheard b.view.wanders_back
  · have hnews : Behind b (b.inform "No previous view") := Covered.behind ⟨_, _, _, rfl⟩
    exact hnews.trans (behind_catchUp (b := b.inform "No previous view") hheard
      b.view.wanders_back)

/-- A key while a bug is open. -/
theorem detailKey_behind (hheard : b.view.pending = []) (key : Key) :
    Behind b (b.detailKey key) := by
  have hscroll : ∀ patchTop, Behind b { b with patchTop } :=
    fun _ => ⟨_, _, _, _, _, _, _, _, rfl⟩
  have hnext : Behind b b.openNext := act_behind hheard .next
  have hprevious : Behind b b.openPrevious := act_behind hheard .previous
  have hclose : Behind b b.closeBug := act_behind hheard .close
  unfold detailKey
  split <;> first
    | exact hnext
    | exact hprevious
    | exact hclose
    | exact hscroll _

/-- A key while no panel is shown, but a bug is open. -/
theorem openKey_behind (hheard : b.view.pending = []) (hopen : b.isDetailOpen) (key : Key) :
    Behind b (b.openKey key) := by
  unfold openKey
  split
  · exact Covered.behind ⟨_, _, _, rfl⟩
  · exact ⟨_, _, _, _, _, _, _, _, rfl⟩
  · exact returnToLast_behind hheard
  · exact returnToLast_behind hheard
  · rw [if_pos hopen]
    exact detailKey_behind hheard key

/-- **A key leaves the list behind an open bug alone.** -/
theorem handleKey_behind (hheard : b.view.pending = []) (hshown : b.overlay.isShown = false)
    (hopen : b.isDetailOpen) (e : KeyEvent) : Behind b (b.handleKey e) := by
  have hpanel : b.overlay.panel = none :=
    Option.not_isSome_iff_eq_none.mp (Bool.eq_false_iff.mp hshown)
  have hnews : Behind b { b with status := b.status.dismissNews } :=
    Covered.behind ⟨_, _, _, rfl⟩
  unfold handleKey
  dsimp only
  split
  · exact .refl b
  · split
    · exact hnews.trans (Covered.behind ⟨_, _, _, rfl⟩)
    · simp only [hpanel]
      exact hnews.trans
        (openKey_behind (b := { b with status := b.status.dismissNews }) hheard hopen e.key)

/-- **The mouse leaves the list behind an open bug alone.** -/
theorem handleMouse_behind (hopen : b.isDetailOpen) (e : MouseEvent) :
    Behind b (b.handleMouse e) := by
  have hscroll : ∀ lines, Behind b (b.movePatch lines) :=
    fun _ => ⟨_, _, _, _, _, _, _, _, rfl⟩
  unfold handleMouse
  rw [hopen]
  split
  · exact .refl b
  · cases e.action with
    | scrollDown => exact hscroll 3
    | scrollUp => exact hscroll (-3)
    | press | other => exact .refl b

/-- **Panels and open bugs isolate what they cover.**  Whatever the state of the
browser, as long as all events of the view were heard, a key or a click beneath a
panel changes nothing but the panel, the message and the wish to quit; behind an
open bug it changes nothing but these, the theme and the route with what it leads
to.  A key event that is no press does nothing, and neither does the mouse without
mouse support. -/
theorem isolated_of_heard (b : Browser) (hheard : b.view.pending = []) : b.Isolated where
  key_covered := handleKey_covered
  mouse_covered := handleMouse_covered
  key_behind := handleKey_behind hheard
  mouse_behind := fun _ => handleMouse_behind
  released := by
    intro e hreleased
    rw [handleKey, if_pos hreleased]
  mouseless := by
    intro hmouse e
    rw [handleMouse, hmouse, Bool.not_false, Bool.true_or, if_pos rfl]

/-- A bug is open over a list with a filter, and a panel is shown over the bug.  The
key that clears filters does not reach the list, and the key that goes to the bug
before does not reach the bug. -/
theorem isolated_of_openBug :
    let crash (commit : String) := (Record.new "Chart" commit).setField "crash" (.bool true)
    let v : View :=
      { records := [crash "1", crash "2"], visible := [0, 1], detail := .on 1
        filters := .ofActive ["crash"], mode := .any
        history := (History.new 100).push (.bug "Chart" "2") }
    let b : Browser :=
      { new { browse := { showWelcome := false } } with view := v, list := ⟨1, 2⟩ }
    let b₁ := b.handleKey { key := .char '?' }
    b.view.pending = [] ∧ b.overlay.isShown = false ∧ b.isDetailOpen ∧ b.Isolated ∧
      Behind b (b.handleKey { key := .char 'c' }) ∧
      b₁.view.pending = [] ∧ b₁.overlay.isShown ∧ b₁.Isolated ∧
      Covered b₁ (b₁.handleKey { key := .char 'h' }) := by
  intro crash v b b₁
  have hheard : b.view.pending = [] := rfl
  have hshown : b.overlay.isShown = false := rfl
  have hopen : b.isDetailOpen := rfl
  have hheard₁ : b₁.view.pending = [] := rfl
  have hshown₁ : b₁.overlay.isShown := rfl
  have hisolated : b.Isolated := isolated_of_heard b hheard
  have hisolated₁ : b₁.Isolated := isolated_of_heard b₁ hheard₁
  exact ⟨hheard, hshown, hopen, hisolated, hisolated.key_behind hshown hopen _, hheard₁, hshown₁,
    hisolated₁, hisolated₁.key_covered hshown₁ _⟩

end Browser

end DefectCatalog
