import DefectCatalog.View.Operation
import Mathlib.Logic.Relation

/-!
# What an operation can do to a view

Many operations act on a view, but all of them do so by a few moves.  This file
says once what the moves are (`Move`) and that every operation but `drain` is a
sequence of them (`perform_moves`); `drain` empties the queue and changes
nothing else.  A property that every move and `drain` keep is
therefore kept by every run (`performAll_induction`).
-/

namespace DefectCatalog.View

/-- One change of a view. -/
inductive Move (v : View) : View → Prop
  /-- The count of a flag is remembered. -/
  | remember (key : String) : Move v (v.count key).2
  /-- The taxonomy is replaced. -/
  | relabel (taxonomy : Taxonomy) : Move v (v.setTaxonomy taxonomy)
  /-- The records are replaced. -/
  | load (records : List Record) : Move v (v.setRecords records)
  /-- Filters, match mode and sort are chosen. -/
  | choose (filters : Filters) (mode : Matching) (sort : Sorting) :
      Move v (refresh { v with filters, mode, sort })
  /-- The current route is followed again. -/
  | stay : Move v (v.followRoute true)
  /-- Another route is entered. -/
  | enter (r : Route) (hr : v.route ≠ r) :
      Move v ((emit { v with history := v.history.push r } (.routeChanged r)).followRoute true)
  /-- The current route is left for the one before it. -/
  | leave (history : History) (hback : v.history.back? = some history) :
      Move v ((emit { v with history } (.routeChanged history.current)).followRoute true)

/-- Any number of moves. -/
abbrev Moves : View → View → Prop :=
  Relation.ReflTransGen Move

variable {v w : View}

/-- Remembering a count changes nothing but the memory. -/
theorem count_eq_with_counts (v : View) (key : String) :
    ∃ counts, (v.count key).2 = { v with counts } := by
  unfold count
  split
  · exact ⟨v.counts, rfl⟩
  · exact ⟨_, rfl⟩

/-- A move leaves the history alone, enters another route or goes back. -/
theorem Move.history_cases (hmove : Move v w) :
    w.history = v.history ∨
      (∃ r, v.history.current ≠ r ∧ w.history = v.history.push r) ∨
      v.history.back? = some w.history := by
  cases hmove with
  | remember key =>
      obtain ⟨counts, heq⟩ := v.count_eq_with_counts key
      exact Or.inl (by rw [heq])
  | relabel | load | choose | stay => exact Or.inl rfl
  | enter r hr => exact Or.inr (Or.inl ⟨r, hr, rfl⟩)
  | leave history hback => exact Or.inr (Or.inr hback)

theorem performAll_cons (v : View) (op : Operation) (ops : List Operation) :
    v.performAll (op :: ops) = (v.perform op).2.performAll ops :=
  rfl

theorem performAll_append (v : View) (ops later : List Operation) :
    v.performAll (ops ++ later) = (v.performAll ops).performAll later :=
  List.foldl_append

/-- Going to a route moves the view by single moves. -/
theorem navigate_moves (v : View) (r : Route) : v.Moves (v.navigate r) := by
  unfold navigate
  split
  · exact .single .stay
  · next hr => exact .single (.enter r hr)

theorem openAt_moves (v : View) (position : Nat) : v.Moves (v.openAt position).2 := by
  unfold openAt
  split
  · exact v.navigate_moves _
  · exact .refl

theorem step_moves (v : View) (neighbour : Nat → Nat → Option Nat) :
    v.Moves (v.step neighbour) := by
  unfold step
  split
  · exact .refl
  · split
    · exact v.openAt_moves _
    · exact .refl

/-- Going back moves the view by single moves. -/
theorem back_moves (v : View) : v.Moves v.back.2 := by
  unfold back
  split
  · next history hback => exact .single (.leave history hback)
  · exact .refl

/-- Setting a filter is a single move. -/
theorem setFilter_move (v : View) (key : String) (active : Bool) :
    v.Move (v.setFilter key active) :=
  .choose (v.filters.set key active) v.mode v.sort

/-- Activating filters is a move for each. -/
theorem activateFilters_moves (v : View) (keys : List String) :
    v.Moves (v.activateFilters keys) := by
  unfold activateFilters
  induction keys generalizing v with
  | nil => exact .refl
  | cons key keys ih => exact .head (v.setFilter_move key true) (ih _)

theorem setMode_moves (v : View) (mode : Matching) : v.Moves (v.setMode mode) := by
  unfold setMode
  split
  · exact .refl
  · exact .single (.choose v.filters mode v.sort)

/-- **Every operation that leaves the queue alone is a sequence of moves.** -/
theorem perform_moves (v : View) {op : Operation} (hop : op ≠ .drain) :
    v.Moves (v.perform op).2 := by
  cases op with
  | setRecords records => exact .single (.load records)
  | setTaxonomy taxonomy => exact .single (.relabel taxonomy)
  | navigate r => exact v.navigate_moves r
  | openAt position => exact v.openAt_moves position
  | close => exact v.navigate_moves .list
  | next => exact v.step_moves _
  | previous => exact v.step_moves _
  | back => exact v.back_moves
  | toggleFilter key => exact .single (.choose (v.filters.toggle key) v.mode v.sort)
  | setFilter key active => exact .single (v.setFilter_move key active)
  | activateFilters keys => exact v.activateFilters_moves keys
  | resetFilters => exact .single (.choose v.filters.clear v.mode v.sort)
  | setMode mode => exact v.setMode_moves mode
  | toggleMode => exact v.setMode_moves v.mode.toggled
  | sortBy fields => exact .single (.choose v.filters v.mode (v.sort.click fields))
  | count key => exact .single (.remember key)
  | drain => exact absurd rfl hop

/-- Operations take no event away: where they drain the queue, it is empty. -/
def TakesNoEvent (v : View) : List Operation → Prop
  | [] => True
  | op :: ops => (op = .drain → v.pending = []) ∧ (v.perform op).2.TakesNoEvent ops

/-- A batch that does not drain takes no event. -/
theorem takesNoEvent_of_not_mem {ops : List Operation} (hops : .drain ∉ ops) :
    v.TakesNoEvent ops := by
  induction ops generalizing v with
  | nil => trivial
  | cons op ops ih =>
      rw [List.mem_cons, not_or] at hops
      exact ⟨fun hop => absurd hop.symm hops.1, ih hops.2⟩

/-- Draining an empty queue changes nothing. -/
theorem drain_of_pending_eq_nil (h : v.pending = []) : v.drain.2 = v := by
  rw [drain, ← h]

/-- Operations that take no event away are together a sequence of moves. -/
theorem performAll_moves {ops : List Operation} (hops : v.TakesNoEvent ops) :
    v.Moves (v.performAll ops) := by
  induction ops generalizing v with
  | nil => exact .refl
  | cons op ops ih =>
      have hrest := ih hops.2
      by_cases hop : op = .drain
      · subst hop
        have hsame : (v.perform .drain).2 = v := drain_of_pending_eq_nil (hops.1 rfl)
        rw [hsame] at hrest
        rw [performAll_cons, hsame]
        exact hrest
      · exact (v.perform_moves hop).trans hrest

/-- What one move keeps, a sequence of moves keeps. -/
theorem Moves.induction {P : View → Prop} (hmove : ∀ {v w : View}, Move v w → P v → P w)
    (h : v.Moves w) (hv : P v) : P w := by
  induction h with
  | refl => exact hv
  | tail _ hlast ih => exact hmove hlast ih

/-- **What every move and `drain` keep, every run keeps.** -/
theorem performAll_induction {P : View → Prop}
    (hmove : ∀ {v w : View}, Move v w → P v → P w)
    (hdrain : ∀ {v : View}, P v → P v.drain.2)
    (ops : List Operation) (hv : P v) : P (v.performAll ops) := by
  induction ops generalizing v with
  | nil => exact hv
  | cons op ops ih =>
      apply ih
      by_cases hop : op = .drain
      · subst hop
        exact hdrain hv
      · exact (v.perform_moves hop).induction hmove hv

end DefectCatalog.View
