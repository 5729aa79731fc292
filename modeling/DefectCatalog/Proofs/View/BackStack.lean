import DefectCatalog.Proofs.View.Observer

/-!
# Going back

The history of a view is a stack of routes with the current one on top; beyond
its limit the oldest routes are forgotten.  `BackStack` says what a reader may
rely on: after travelling along fewer routes than the limit, going back once for
every change of the route leads through the routes that were left, the last one
first, and ends where the travels began.

Travelling pushes the routes that are left (`past_performAll`), and going back
pops them again (`trace_back`).  Neither touches the visible list, so the detail
in the end follows from the route (`Settled.detail_eq_of`).
-/

namespace DefectCatalog.View

/-- A view without documents whose history holds at most `limit` routes, but
never less than two. -/
def newWithin (limit : Nat) (sort : Sorting := .default) (mode : Matching := .all) : View :=
  { new sort mode with history := .new limit }

-- the limit that a view starts with
example : newWithin 100 = new := rfl

/-- The operations by which a reader travels from route to route. -/
inductive Operation.Travels : Operation → Prop
  | navigate (route : Route) : Travels (.navigate route)
  | openAt (position : Nat) : Travels (.openAt position)
  | close : Travels .close
  | next : Travels .next
  | previous : Travels .previous

/-- The routes that the operations of a run leave for others, in order. -/
def departed (v : View) : List Operation → List Route
  | [] => []
  | op :: ops =>
    let w := (v.perform op).2
    if w.route = v.route then w.departed ops else v.route :: w.departed ops

/-- What the operations of a run answer, each with the view after it. -/
def trace (v : View) : List Operation → List (Answer × View)
  | [] => []
  | op :: ops => v.perform op :: (v.perform op).2.trace ops

/-- Going back from `w` retraces the routes `left`, down to the view `v`. -/
structure Retraces (v : View) (left : List Route) (w : View) : Prop where
  /-- Each return succeeds, to the routes in reverse order. -/
  returns : ((w.trace (List.replicate left.length .back)).map fun step => (step.1, step.2.route)) =
    left.reverse.map fun r => (.bool true, r)
  route_eq : (w.performAll (List.replicate left.length .back)).route = v.route
  visible_eq : (w.performAll (List.replicate left.length .back)).visible = v.visible
  records_eq : (w.performAll (List.replicate left.length .back)).visibleRecords = v.visibleRecords
  detail_eq : (w.performAll (List.replicate left.length .back)).detail = v.detail

/-- The history is a stack of at most `limit` routes, which a reader can go back. -/
structure BackStack (limit : Nat) (v : View) : Prop where
  nonempty : 1 ≤ v.history.entries.length
  bounded : v.history.entries.length ≤ limit
  /-- No route follows itself. -/
  alternates : v.history.entries.IsChain (· ≠ ·)
  last_eq : v.history.entries.getLast? = some v.route
  /-- Going back is refused only at the bottom, -/
  refused_iff : v.back.1 = false ↔ v.history.entries.length = 1
  /-- where it changes nothing. -/
  stuck_iff : v.back = (false, v) ↔ v.history.entries.length = 1
  /-- Travels can be undone, as long as nothing of them is forgotten. -/
  retraces : ∀ travels : List Operation, (∀ op ∈ travels, op.Travels) →
    (v.departed travels).length ≤ limit - 1 →
    Retraces v (v.departed travels) (v.performAll travels)

variable {v w : View} {op : Operation} {ops : List Operation}

/-! ## Travelling -/

/-- Going to a route puts it into the history. -/
theorem history_navigate (v : View) (r : Route) :
    (v.navigate r).history = v.history.push r := by
  unfold navigate
  split
  · next hr =>
      subst hr
      exact v.history.push_current.symm
  · rfl

/-- Going to a route leaves the list as it is. -/
theorem sameList_navigate (v : View) (r : Route) : v.SameList (v.navigate r) := by
  unfold navigate
  split
  · exact ⟨rfl, rfl, rfl⟩
  · exact ⟨rfl, rfl, rfl⟩

/-- Opening a position is going to a route, or nothing. -/
theorem openAt_eq (v : View) (position : Nat) :
    (v.openAt position).2 = v ∨ ∃ r, (v.openAt position).2 = v.navigate r := by
  unfold openAt
  split
  · next r _ => exact Or.inr ⟨.ofRecord r, rfl⟩
  · exact Or.inl rfl

/-- Stepping is going to a route, or nothing. -/
theorem step_eq (v : View) (neighbour : Nat → Nat → Option Nat) :
    v.step neighbour = v ∨ ∃ r, v.step neighbour = v.navigate r := by
  unfold step
  split
  · exact Or.inl rfl
  · split
    · exact v.openAt_eq _
    · exact Or.inl rfl

/-- Travelling is staying or making a route current. -/
theorem Operation.Travels.perform_eq (hop : op.Travels) (v : View) :
    (v.perform op).2 = v ∨ ∃ r, (v.perform op).2 = v.navigate r := by
  cases hop with
  | navigate r => exact Or.inr ⟨r, rfl⟩
  | openAt position => exact v.openAt_eq position
  | close => exact Or.inr ⟨.list, rfl⟩
  | next => exact v.step_eq _
  | previous => exact v.step_eq _

/-- **One travel.**  The route that is current afterwards was pushed. -/
theorem Operation.Travels.history_eq (hop : op.Travels) (v : View) :
    (v.perform op).2.history = v.history.push (v.perform op).2.route := by
  rcases hop.perform_eq v with heq | ⟨r, heq⟩
  · rw [heq]
    exact v.history.push_current.symm
  · rw [heq, route, history_navigate, History.current_push]

/-- Travelling leaves the list as it is. -/
theorem Operation.Travels.sameList (hop : op.Travels) (v : View) :
    v.SameList (v.perform op).2 := by
  rcases hop.perform_eq v with heq | ⟨r, heq⟩
  · rw [heq]
    exact .refl v
  · rw [heq]
    exact v.sameList_navigate r

theorem sameList_performAll (hops : ∀ op ∈ ops, op.Travels) : v.SameList (v.performAll ops) := by
  induction ops generalizing v with
  | nil => exact .refl v
  | cons op ops ih =>
      rw [List.forall_mem_cons] at hops
      exact (hops.1.sameList v).trans (ih hops.2)

/-- **The routes that travels leave lie on top of the past**, the last one first,
as far as the limit lets them. -/
theorem past_performAll {limit : Nat} (hops : ∀ op ∈ ops, op.Travels)
    (hw : v.history.Within limit) :
    (v.performAll ops).history.past =
      ((v.departed ops).reverse ++ v.history.past).take (limit - 1) := by
  induction ops generalizing v with
  | nil =>
      have hsize : v.history.past.length + 1 ≤ limit := hw.size_le
      have hfits : v.history.past.length ≤ limit - 1 := by omega
      exact (List.take_of_length_le hfits).symm
  | cons op ops ih =>
      rw [List.forall_mem_cons] at hops
      have hhistory := hops.1.history_eq v
      rw [performAll_cons, departed]
      by_cases hroute : (v.perform op).2.route = v.route
      · rw [hroute, route, History.push_current] at hhistory
        rw [if_pos hroute, ih hops.2 (hhistory ▸ hw), hhistory]
      · have hne : v.history.current ≠ (v.perform op).2.route := Ne.symm hroute
        rw [if_neg hroute, ih hops.2 (hhistory ▸ hw.push hne), hhistory, History.past_push hne,
          hw.limit_eq, List.reverse_cons, List.append_assoc, List.singleton_append,
          List.take_append, List.take_append, List.take_take, Nat.min_eq_left (Nat.sub_le _ _)]
        rfl

/-- The first route that travels leave is the one they start from. -/
theorem head?_departed (v : View) (ops : List Operation) :
    (v.departed ops).head?.getD (v.performAll ops).route = v.route := by
  induction ops generalizing v with
  | nil => rfl
  | cons op ops ih =>
      rw [performAll_cons, departed]
      by_cases hroute : (v.perform op).2.route = v.route
      · rw [if_pos hroute, ih, hroute]
      · rw [if_neg hroute]
        rfl

/-! ## Returning -/

/-- **One return.**  The top of the past becomes current. -/
theorem back_of_past {r : Route} {rest : List Route} (h : w.history.past = r :: rest) :
    w.back.1 = true ∧ w.back.2.route = r ∧ w.back.2.history.past = rest ∧ w.SameList w.back.2 := by
  have hback : w.history.back? = some { w.history with current := r, past := rest } := by
    rw [History.back?, h]
  simp only [back, hback]
  exact ⟨trivial, rfl, rfl, rfl, rfl, rfl⟩

/-- **Returns lead through the past**, from its top. -/
theorem trace_back {routes rest : List Route} (h : w.history.past = routes ++ rest) :
    ((w.trace (List.replicate routes.length .back)).map fun step => (step.1, step.2.route)) =
      routes.map fun r => (.bool true, r) := by
  induction routes generalizing w with
  | nil => rfl
  | cons r routes ih =>
      obtain ⟨htrue, hroute, hpast, -⟩ := back_of_past h
      have hanswer : (w.perform .back).1 = .bool true := congrArg Answer.bool htrue
      rw [List.length_cons, List.replicate_succ, trace, List.map_cons, List.map_cons, hanswer]
      exact congrArg₂ List.cons (congrArg _ hroute) (ih hpast)

/-- The last of the returns ends at the last route it leads through. -/
theorem performAll_back {routes rest : List Route} (h : w.history.past = routes ++ rest) :
    (w.performAll (List.replicate routes.length .back)).route = routes.getLast?.getD w.route ∧
      w.SameList (w.performAll (List.replicate routes.length .back)) := by
  induction routes generalizing w with
  | nil => exact ⟨rfl, .refl w⟩
  | cons r routes ih =>
      obtain ⟨-, hroute, hpast, hsame⟩ := back_of_past h
      obtain ⟨hlast, hsames⟩ := ih hpast
      rw [List.length_cons, List.replicate_succ, performAll_cons]
      refine ⟨?_, hsame.trans hsames⟩
      rw [show (w.perform .back).2 = w.back.2 from rfl, hlast, hroute, List.getLast?_cons]
      rfl

/-- Settled views with one route and one list have one detail. -/
theorem Settled.detail_eq_of (hv : v.Settled) (hw : w.Settled) (hroute : w.route = v.route)
    (hlist : v.SameList w) : w.detail = v.detail := by
  obtain ⟨hvisible, hrecords, -⟩ := hlist
  rw [hv.detail_eq, hw.detail_eq, resolved?, resolved?, hroute, hvisible, hrecords]

/-- Travels of which nothing is forgotten are retraced. -/
theorem retraces_performAll {limit : Nat} (hv : v.Settled) (hw : v.history.Within limit)
    (hops : ∀ op ∈ ops, op.Travels) (hfew : (v.departed ops).length ≤ limit - 1) :
    Retraces v (v.departed ops) (v.performAll ops) := by
  have hpast : (v.performAll ops).history.past =
      (v.departed ops).reverse ++
        v.history.past.take (limit - 1 - (v.departed ops).reverse.length) := by
    rw [past_performAll hops hw, List.take_append,
      List.take_of_length_le (by rwa [List.length_reverse])]
  have htrace := trace_back hpast
  obtain ⟨hroute, hreturned⟩ := performAll_back hpast
  rw [List.length_reverse] at htrace hroute hreturned
  rw [List.getLast?_reverse, head?_departed] at hroute
  have hlist := (sameList_performAll hops).trans hreturned
  exact ⟨htrace, hroute, hlist.1, hlist.visibleRecords_eq,
    hv.detail_eq_of ((hv.performAll ops).performAll _) hroute hlist⟩

/-! ## Every run -/

/-- A move keeps the history within its limit. -/
theorem Move.within {limit : Nat} (hw : v.history.Within limit) (hmove : Move v w) :
    w.history.Within limit := by
  rcases hmove.history_cases with heq | ⟨r, hr, heq⟩ | hback
  · rw [heq]
    exact hw
  · rw [heq]
    exact hw.push hr
  · exact hw.back hback

/-- The history stays within its limit along every run. -/
theorem within_performAll {limit : Nat} (hw : v.history.Within limit) (ops : List Operation) :
    (v.performAll ops).history.Within limit :=
  performAll_induction (fun hmove hv => hmove.within hv) id ops hw

/-- No route follows itself in the history of a run. -/
theorem alternates_performAll (halt : v.history.Alternates) (ops : List Operation) :
    (v.performAll ops).history.Alternates :=
  performAll_induction (fun hmove hv => hmove.alternates hv) id ops halt

/-- A view that starts is settled, whatever its limit is. -/
theorem settled_newWithin (limit : Nat) (sort : Sorting) (mode : Matching) :
    (newWithin limit sort mode).Settled :=
  ⟨(settled_new sort mode).visible_eq, rfl⟩

/-- Going back is refused exactly if nothing is left to go back to. -/
theorem back_fst_eq_false_iff : v.back.1 = false ↔ v.history.back? = none := by
  cases hback : v.history.back? <;> simp [back, hback]

/-- A return that is refused changes nothing. -/
theorem back_eq_self_iff : v.back = (false, v) ↔ v.history.back? = none := by
  constructor
  · intro h
    exact back_fst_eq_false_iff.mp (congrArg Prod.fst h)
  · intro h
    rw [back, h]

/-- **The history is a back stack.**  Whatever its limit is and whatever was done
before, a reader can go back the way that was travelled. -/
theorem backStack_performAll (limit : Nat) (sort : Sorting) (mode : Matching)
    (ops : List Operation) :
    BackStack (max limit 2) ((newWithin limit sort mode).performAll ops) := by
  have hsettled := (settled_newWithin limit sort mode).performAll ops
  have hwithin : ((newWithin limit sort mode).performAll ops).history.Within (max limit 2) :=
    within_performAll (History.within_new limit) ops
  have halternates : ((newWithin limit sort mode).performAll ops).history.Alternates :=
    alternates_performAll (v := newWithin limit sort mode) (List.IsChain.singleton _) ops
  refine ⟨?_, ?_, halternates.isChain_entries, History.getLast?_entries _, ?_, ?_,
    fun travels => retraces_performAll hsettled hwithin⟩
  · rw [History.length_entries]
    exact Nat.le_add_left 1 _
  · rw [History.length_entries]
    exact hwithin.size_le
  · rw [History.length_entries, ← History.back?_eq_none_iff]
    exact back_fst_eq_false_iff
  · rw [History.length_entries, ← History.back?_eq_none_iff]
    exact back_eq_self_iff

/-- After the oldest routes were forgotten, two changes of the route are undone;
closing at the list changes nothing. -/
theorem backStack_performAll_of_forgotten :
    let v := (newWithin 3).performAll
      [.navigate (.bug "Chart" "1"), .navigate (.bug "Chart" "2"), .navigate (.bug "Chart" "3")]
    let travels := [.navigate (.bug "Lang" "1"), .close, .close]
    v.departed travels = [.bug "Chart" "3", .bug "Lang" "1"] ∧
      Retraces v (v.departed travels) (v.performAll travels) := by
  refine ⟨by decide, (backStack_performAll 3 .default .all _).retraces _ ?_ (by decide)⟩
  simp only [List.forall_mem_cons, List.not_mem_nil, false_imp_iff, implies_true, and_true]
  exact ⟨.navigate _, .close, .close⟩

end DefectCatalog.View
