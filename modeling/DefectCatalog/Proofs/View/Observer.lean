import DefectCatalog.Proofs.Route.History
import DefectCatalog.Proofs.View.Settled

/-!
# Observers of a view

An observer never sees the view, but hears the events that are handed out.  This
file says that this is enough: an observer who starts at the list with the
detail closed and follows every event knows the route and the detail after
every handout (`informed_performAll`).  Besides, no event takes the observer by
surprise: a detail opens only when it is closed, moves and closes only when it
is open, a route changes only to another one, and a list that is not the one of
the last handout was announced.

The local fact is `Move.tells`: the events of one move lead an observer from
the view before it to the view after it.  It composes (`Tells.trans`), so it
holds of any number of moves.
-/

namespace DefectCatalog

namespace View

/-- What is known of a view to someone who only hears its events. -/
structure Observer where
  route : Route := .list
  detail : Detail := .closed
deriving DecidableEq

namespace Observer

/-- What is known after an event. -/
def hear (o : Observer) : Event → Observer
  | .listChanged => o
  | .opened p | .updated p => { o with detail := .on p }
  | .closed => { o with detail := .closed }
  | .routeChanged r => { o with route := r }

/-- What is known after events. -/
def hearAll (o : Observer) (es : List Event) : Observer :=
  es.foldl hear o

/-- Whether an event fits what is known. -/
def Expects (o : Observer) : Event → Prop
  | .listChanged => True
  | .opened _ => o.detail = .closed
  | .updated _ | .closed => ∃ p, o.detail = .on p
  | .routeChanged r => r ≠ o.route

/-- Whether each event fits what is known when it is heard. -/
def ExpectsAll (o : Observer) : List Event → Prop
  | [] => True
  | e :: es => o.Expects e ∧ (o.hear e).ExpectsAll es

/-- Hearing events in two parts. -/
theorem hearAll_append (o : Observer) (es fs : List Event) :
    o.hearAll (es ++ fs) = (o.hearAll es).hearAll fs :=
  List.foldl_append

/-- Expecting events in two parts. -/
theorem expectsAll_append (o : Observer) (es fs : List Event) :
    o.ExpectsAll (es ++ fs) ↔ o.ExpectsAll es ∧ (o.hearAll es).ExpectsAll fs := by
  induction es generalizing o with
  | nil => simp [ExpectsAll, hearAll]
  | cons e es ih =>
      rw [List.cons_append, ExpectsAll, ExpectsAll, ih, and_assoc]
      rfl

/-- The events of a change of the detail lead to the new detail. -/
theorem hearAll_detailEvents (always : Bool) (r : Route) (old new : Detail) :
    (⟨r, old⟩ : Observer).hearAll (detailEvents always old new) = ⟨r, new⟩ := by
  cases old with
  | closed => cases new <;> rfl
  | on p =>
      cases new with
      | closed => rfl
      | on q =>
          rw [detailEvents_on_on]
          split
          · rfl
          · next hsame =>
              simp only [Bool.or_eq_true, bne_iff_ne, not_or, Decidable.not_not] at hsame
              rw [hsame.2]
              rfl

/-- The events of a change of the detail fit the old detail. -/
theorem expectsAll_detailEvents (always : Bool) (r : Route) (old new : Detail) :
    (⟨r, old⟩ : Observer).ExpectsAll (detailEvents always old new) := by
  cases old with
  | closed => cases new <;> simp [detailEvents, ExpectsAll, Expects]
  | on p =>
      cases new with
      | closed => exact ⟨⟨p, rfl⟩, trivial⟩
      | on q =>
          rw [detailEvents_on_on]
          split
          · exact ⟨⟨p, rfl⟩, trivial⟩
          · trivial

end Observer

/-- What an observer who missed nothing knows of a view. -/
def observed (v : View) : Observer :=
  ⟨v.route, v.detail⟩

/-- Whether two views show the same list, with the same records and labels. -/
def SameList (v w : View) : Prop :=
  w.visible = v.visible ∧ w.records = v.records ∧ w.taxonomy = v.taxonomy

/-- The events `es` tell an observer of `v` all there is to know of `w`. -/
structure Tells (v : View) (es : List Event) (w : View) : Prop where
  /-- The events are what `w` has queued after `v`. -/
  queued : w.pending = v.pending ++ es
  /-- Each event fits what is known when it is heard. -/
  expected : v.observed.ExpectsAll es
  /-- The route and the detail of `w` are known in the end. -/
  heard : v.observed.hearAll es = w.observed
  /-- A list that changed was announced. -/
  listed : .listChanged ∈ es ∨ v.SameList w

variable {u v w : View} {es fs : List Event}

theorem SameList.refl (v : View) : v.SameList v :=
  ⟨rfl, rfl, rfl⟩

theorem SameList.trans (huv : u.SameList v) (hvw : v.SameList w) : u.SameList w :=
  ⟨hvw.1.trans huv.1, hvw.2.1.trans huv.2.1, hvw.2.2.trans huv.2.2⟩

/-- A list that was not announced shows the records it showed. -/
theorem SameList.visibleRecords_eq (h : v.SameList w) :
    w.visibleRecords = v.visibleRecords := by
  obtain ⟨hvisible, hrecords, -⟩ := h
  rw [visibleRecords, visibleRecords, hvisible, hrecords]

/-- Nothing is to be told of the same view. -/
theorem Tells.refl (v : View) : v.Tells [] v :=
  ⟨(List.append_nil _).symm, trivial, rfl, Or.inr (.refl v)⟩

/-- **What is told step by step is told in all.** -/
theorem Tells.trans (huv : u.Tells es v) (hvw : v.Tells fs w) : u.Tells (es ++ fs) w where
  queued := by rw [hvw.queued, huv.queued, List.append_assoc]
  expected := by
    rw [Observer.expectsAll_append, huv.heard]
    exact ⟨huv.expected, hvw.expected⟩
  heard := by rw [Observer.hearAll_append, huv.heard, hvw.heard]
  listed := by
    rcases huv.listed with hes | hsame
    · exact Or.inl (List.mem_append_left _ hes)
    · rcases hvw.listed with hfs | hsame'
      · exact Or.inl (List.mem_append_right _ hfs)
      · exact Or.inr (hsame.trans hsame')

/-- Following the route tells how the detail changed. -/
theorem tells_followRoute (v : View) (always : Bool) :
    v.Tells (detailEvents always v.detail (v.followRoute always).detail)
      (v.followRoute always) where
  queued := rfl
  expected := Observer.expectsAll_detailEvents always _ _ _
  heard := Observer.hearAll_detailEvents always _ _ _
  listed := Or.inr ⟨rfl, rfl, rfl⟩

/-- Announcing the list tells of any change that is neither of the route nor of
the detail. -/
theorem tells_listChanged (hpending : w.pending = v.pending) (hobserved : w.observed = v.observed) :
    v.Tells [.listChanged] (w.emit .listChanged) where
  queued := congrArg (· ++ _) hpending
  expected := ⟨trivial, trivial⟩
  heard := hobserved.symm
  listed := Or.inl List.mem_cons_self

/-- Deriving everything again tells of any such change. -/
theorem tells_refresh (hpending : w.pending = v.pending) (hobserved : w.observed = v.observed) :
    v.Tells (.listChanged :: detailEvents false v.detail w.refresh.detail) w.refresh := by
  have hdetail : w.detail = v.detail := congrArg Observer.detail hobserved
  rw [← hdetail]
  exact (tells_listChanged (w := { w with
    visible := (arrange w.filters w.mode w.sort w.records).map Prod.snd })
    hpending hobserved).trans (tells_followRoute _ false)

/-- Making another route current tells of the route and of the detail. -/
theorem tells_travel {history : History} {r : Route} (hcurrent : history.current = r)
    (hne : r ≠ v.route) :
    let w := (emit { v with history } (.routeChanged r)).followRoute true
    v.Tells (.routeChanged r :: detailEvents true v.detail w.detail) w := by
  subst hcurrent
  have hroute : v.Tells [.routeChanged history.current]
      (emit { v with history } (.routeChanged history.current)) :=
    ⟨rfl, ⟨hne, trivial⟩, rfl, Or.inr ⟨rfl, rfl, rfl⟩⟩
  exact hroute.trans (tells_followRoute _ true)

/-- **A move tells all it does.**  The events that a move queues lead an observer
of the view before it to the view after it. -/
theorem Move.tells (halt : v.history.Alternates) (hmove : Move v w) : ∃ es, v.Tells es w := by
  cases hmove with
  | remember key =>
      obtain ⟨counts, heq⟩ := v.count_eq_with_counts key
      rw [heq]
      exact ⟨[], (List.append_nil _).symm, trivial, rfl, Or.inr ⟨rfl, rfl, rfl⟩⟩
  | relabel taxonomy => exact ⟨_, tells_listChanged rfl rfl⟩
  | load records => exact ⟨_, tells_refresh rfl rfl⟩
  | choose filters mode sort => exact ⟨_, tells_refresh rfl rfl⟩
  | stay => exact ⟨_, tells_followRoute v true⟩
  | enter r hr => exact ⟨_, tells_travel History.current_push (Ne.symm hr)⟩
  | leave history hback => exact ⟨_, tells_travel rfl (halt.back hback).2⟩

/-- A move keeps the history alternating. -/
theorem Move.alternates (halt : v.history.Alternates) (hmove : Move v w) :
    w.history.Alternates := by
  rcases hmove.history_cases with heq | ⟨r, hr, heq⟩ | hback
  · rw [heq]
    exact halt
  · rw [heq]
    exact halt.push hr
  · exact (halt.back hback).1

/-- Moves keep the history alternating and tell all they do. -/
theorem Moves.tells (halt : v.history.Alternates) (hmoves : v.Moves w) :
    w.history.Alternates ∧ ∃ es, v.Tells es w := by
  induction hmoves with
  | refl => exact ⟨halt, [], .refl v⟩
  | tail _ hlast ih =>
      obtain ⟨halt', es, hes⟩ := ih
      obtain ⟨fs, hfs⟩ := hlast.tells halt'
      exact ⟨hlast.alternates halt', es ++ fs, hes.trans hfs⟩

/-- The batches of events that a run hands out, each with the view after it. -/
def handouts (v : View) : List Operation → List (List Event × View)
  | [] => []
  | op :: ops =>
    match v.perform op with
    | (.events es, w) => (es, w) :: w.handouts ops
    | (_, w) => w.handouts ops

/-- Whether batches of events keep an observer informed, to whom the last view
showed the records `shown`. -/
def Observer.Informed (o : Observer) (shown : List Record) : List (List Event × View) → Prop
  | [] => True
  | (es, v) :: rest =>
    o.ExpectsAll es ∧ o.hearAll es = v.observed ∧
      (v.visibleRecords ≠ shown → .listChanged ∈ es) ∧
      (o.hearAll es).Informed v.visibleRecords rest

/-- Only `drain` hands events out. -/
theorem handouts_cons {op : Operation} (hop : op ≠ .drain) (ops : List Operation) :
    v.handouts (op :: ops) = (v.perform op).2.handouts ops := by
  cases op with
  | drain => exact absurd rfl hop
  | _ => rfl

/-- The induction behind `informed_performAll`: `seen` is the view after the last
handout, and the queue of `v` tells what happened since. -/
theorem informed_handouts {seen : View} (ops : List Operation) (halt : v.history.Alternates)
    (hempty : seen.pending = []) (htells : ∃ es, seen.Tells es v) :
    seen.observed.Informed seen.visibleRecords (v.handouts ops) := by
  induction ops generalizing seen v with
  | nil => trivial
  | cons op ops ih =>
      obtain ⟨es, hes⟩ := htells
      by_cases hop : op = .drain
      · subst hop
        have hqueue : v.pending = es := by rw [hes.queued, hempty, List.nil_append]
        have hrest : v.drain.2.observed.Informed v.drain.2.visibleRecords
            (v.drain.2.handouts ops) := ih halt rfl ⟨[], .refl _⟩
        have hannounced : v.visibleRecords ≠ seen.visibleRecords → .listChanged ∈ es := by
          intro hne
          exact hes.listed.resolve_right fun hsame => hne hsame.visibleRecords_eq
        show seen.observed.Informed seen.visibleRecords ((v.pending, v.drain.2) :: _)
        rw [hqueue]
        refine ⟨hes.expected, hes.heard, hannounced, ?_⟩
        rw [hes.heard]
        exact hrest
      · rw [handouts_cons hop]
        obtain ⟨halt', fs, hfs⟩ := (v.perform_moves hop).tells halt
        exact ih halt' hempty ⟨es ++ fs, hes.trans hfs⟩

/-- A view without documents has an alternating history. -/
theorem alternates_new (sort : Sorting) (mode : Matching) :
    (new sort mode).history.Alternates :=
  .singleton _

/-- **The events are a faithful account of the view.**  Whatever the operations
of a run are, and wherever it hands events out, an observer who starts at the
list with the detail closed and shown nothing stays informed. -/
theorem informed_performAll (sort : Sorting) (mode : Matching) (ops : List Operation) :
    ({} : Observer).Informed [] ((new sort mode).handouts ops) :=
  informed_handouts ops (alternates_new sort mode) rfl ⟨[], .refl _⟩

end View

end DefectCatalog
