import DefectCatalog.Proofs.Route.Reading
import DefectCatalog.Proofs.View.Addressed
import DefectCatalog.Proofs.View.BackStack
import Mathlib.Data.List.Rotate

/-!
# Stepping through the visible list

A step from an open record computes a position, turns the record there into a
route, and resolves that route again.  Where the loaded records have distinct
identities the route leads back to the very position (`Settled.detail_openAt`),
so that a step is a step in the ring of the visible positions
(`detail_perform`), and steps add up (`detail_performAll_steps`).
-/

namespace DefectCatalog

namespace Ring

variable {i len : Nat}

/-- The position `d` steps after `i` in a ring, or before it if `d` is negative. -/
def shift (i len : Nat) (d : Int) : Nat :=
  ((i + d) % len).toNat

/-- A shift is taken modulo the length. -/
theorem natCast_shift (h : 0 < len) (d : Int) : (shift i len d : Int) = (i + d) % len :=
  Int.toNat_of_nonneg (Int.emod_nonneg _ (by omega))

/-- A shift stays within the length. -/
theorem shift_lt (h : 0 < len) (d : Int) : shift i len d < len := by
  have hcast := natCast_shift (i := i) h d
  have hlt := Int.emod_lt_of_pos ((i : Int) + d) (Int.natCast_pos.mpr h)
  omega

/-- Shifts add up. -/
theorem shift_shift (h : 0 < len) (d e : Int) :
    shift (shift i len d) len e = shift i len (d + e) := by
  rw [shift, natCast_shift h, Int.emod_add_emod, shift, Int.add_assoc]

/-- A shift to the right is one of natural numbers. -/
theorem shift_natCast (i len k : Nat) : shift i len k = (i + k) % len := by
  rw [shift, ← Int.natCast_add, ← Int.natCast_emod, Int.toNat_natCast]

theorem shift_zero (h : i < len) : shift i len 0 = i := by
  rw [← Int.natCast_zero, shift_natCast, Nat.add_zero, Nat.mod_eq_of_lt h]

/-- The next position is a shift by one. -/
theorem next?_eq (h : 0 < len) : next? i len = some (shift i len 1) := by
  rw [next?, if_neg (by omega), ← Int.natCast_one, shift_natCast]

/-- The previous position is a shift back by one. -/
theorem previous?_eq (h : i < len) : previous? i len = some (shift i len (-1)) := by
  have hcast : ((i : Int) + -1) % len = ((i % len + len - 1 : Nat) : Int) % len := by
    rw [Nat.mod_eq_of_lt h, ← Int.add_emod_right]
    congr 1
    omega
  rw [previous?, if_neg (by omega), shift, hcast, ← Int.natCast_emod, Int.toNat_natCast]

end Ring

namespace View

variable {v w : View} {p : Nat} {op : Operation} {ops : List Operation}

/-! ## Opening a position -/

/-- Of records with distinct identities none is visible twice. -/
theorem Settled.nodup_visibleRecords (h : v.Settled) (hid : (v.records.map Record.id).Nodup) :
    (v.visibleRecords.map Record.id).Nodup := by
  have hperm := v.sort.sortBy_perm id v.accepted
  have haccepted : (v.accepted.map Record.id).Nodup := hid.sublist (List.filter_sublist.map _)
  rw [h.visibleRecords_eq]
  exact (hperm.map Record.id).nodup_iff.mpr haccepted

/-- Going to a route arrives there. -/
theorem route_navigate (v : View) (r : Route) : (v.navigate r).route = r := by
  rw [route, history_navigate, History.current_push]

/-- Going to a route leaves a settled view settled. -/
theorem settled_navigate (h : v.Settled) (r : Route) : (v.navigate r).Settled :=
  h.moves (v.navigate_moves r)

/-- **The route of a visible record leads to its position**, if identities are
distinct. -/
theorem Settled.detail_openAt (h : v.Settled) (hid : (v.records.map Record.id).Nodup)
    (hp : p < v.visibleSize) : (v.openAt p).2.detail = .on p := by
  have hlt : p < v.visibleRecords.length := h.length_visibleRecords ▸ hp
  have hrecord : v.visibleRecord? p = some v.visibleRecords[p] := by
    rw [h.visibleRecord?_eq, List.getElem?_eq_getElem hlt]
  have hopen : (v.openAt p).2 = v.navigate (.ofRecord v.visibleRecords[p]) := by
    simp only [openAt, hrecord]
  have hposition := Record.position?_of_nodup (h.nodup_visibleRecords hid)
    (List.getElem?_eq_getElem hlt)
  rw [hopen, (settled_navigate h _).detail_eq_detailIn, route_navigate,
    (v.sameList_navigate _).visibleRecords_eq, Route.ofRecord, Route.detailIn, hposition]
  rfl

/-! ## Steps -/

/-- An operation that steps to a neighbour of the open record. -/
def Operation.IsStep (op : Operation) : Prop :=
  op = .next ∨ op = .previous

/-- The way that an operation goes round the visible list. -/
def Operation.way : Operation → Int
  | .next => 1
  | .previous => -1
  | _ => 0

/-- Stepping is travelling. -/
theorem Operation.IsStep.travels (h : op.IsStep) : op.Travels := by
  rcases h with rfl | rfl
  · exact .next
  · exact .previous

theorem forall_isStep_replicate (h : op.IsStep) (k : Nat) :
    ∀ op' ∈ List.replicate k op, op'.IsStep := by
  intro op' hmem
  rw [List.eq_of_mem_replicate hmem]
  exact h

/-- **One step.**  The detail opens on the neighbour of its position in the ring
of the visible positions. -/
theorem Settled.detail_perform (h : v.Settled) (hid : (v.records.map Record.id).Nodup)
    (hop : op.IsStep) (hp : v.detail = .on p) :
    (v.perform op).2.detail = .on (Ring.shift p v.visibleSize op.way) := by
  have hlt : p < v.visibleSize := h.lt_of_on hp
  have hstep : (v.perform op).2 = (v.openAt (Ring.shift p v.visibleSize op.way)).2 := by
    rcases hop with rfl | rfl
    · simp only [perform, next, step, hp, Ring.next?_eq (Nat.zero_lt_of_lt hlt), Operation.way]
    · simp only [perform, previous, step, hp, Ring.previous?_eq hlt, Operation.way]
  rw [hstep]
  exact h.detail_openAt hid (Ring.shift_lt (Nat.zero_lt_of_lt hlt) _)

/-- **Steps add up.**  Where a run of steps leads depends on its way alone. -/
theorem Settled.detail_performAll (h : v.Settled) (hid : (v.records.map Record.id).Nodup)
    (hops : ∀ op ∈ ops, op.IsStep) (hp : v.detail = .on p) :
    (v.performAll ops).detail = .on (Ring.shift p v.visibleSize (ops.map Operation.way).sum) := by
  have hlt : p < v.visibleSize := h.lt_of_on hp
  induction ops generalizing v p with
  | nil =>
      rw [List.map_nil, List.sum_nil, Ring.shift_zero hlt]
      exact hp
  | cons op ops ih =>
      rw [List.forall_mem_cons] at hops
      obtain ⟨hvisible, hrecords, -⟩ := hops.1.travels.sameList v
      have hsize : (v.perform op).2.visibleSize = v.visibleSize := congrArg List.length hvisible
      have hpos : 0 < v.visibleSize := Nat.zero_lt_of_lt hlt
      have hsettled : (v.perform op).2.Settled := h.performAll [op]
      have hnext : Ring.shift p v.visibleSize op.way < (v.perform op).2.visibleSize := by
        rw [hsize]
        exact Ring.shift_lt hpos _
      rw [performAll_cons, ih hsettled (hrecords ▸ hid) hops.2 (h.detail_perform hid hops.1 hp)
        hnext, hsize, Ring.shift_shift hpos, List.map_cons, List.sum_cons]

/-- What a reader chose is not touched by a step. -/
theorem choices_navigate (v : View) (r : Route) :
    (v.navigate r).filters = v.filters ∧ (v.navigate r).mode = v.mode ∧
      (v.navigate r).sort = v.sort := by
  unfold navigate
  split
  · exact ⟨rfl, rfl, rfl⟩
  · exact ⟨rfl, rfl, rfl⟩

/-- Travelling changes neither filters nor mode nor sort. -/
theorem choices_performAll_travels (hops : ∀ op ∈ ops, op.Travels) :
    (v.performAll ops).filters = v.filters ∧ (v.performAll ops).mode = v.mode ∧
      (v.performAll ops).sort = v.sort := by
  induction ops generalizing v with
  | nil => exact ⟨rfl, rfl, rfl⟩
  | cons op ops ih =>
      rw [List.forall_mem_cons] at hops
      obtain ⟨hfilters, hmode, hsort⟩ := ih hops.2 (v := (v.perform op).2)
      rw [performAll_cons, hfilters, hmode, hsort]
      rcases hops.1.perform_eq v with heq | ⟨r, heq⟩
      · rw [heq]
        exact ⟨rfl, rfl, rfl⟩
      · rw [heq]
        exact v.choices_navigate r

/-! ## Walks -/

/-- Stepping from the open position `p` walks round the visible list. -/
structure WalksRound (v : View) (p : Nat) : Prop where
  next_eq : ∀ k : Nat, (v.performAll (List.replicate k .next)).detail = .on ((p + k) % v.visibleSize)
  previous_eq : ∀ k : Nat, (v.performAll (List.replicate k .previous)).detail =
    .on (((p : Int) - k) % v.visibleSize).toNat
  /-- As many steps as there are visible records show each of them once, -/
  tour_perm : ((List.range v.visibleSize).map fun k =>
    (v.performAll (List.replicate (k + 1) .next)).openRecord?).Perm (v.visibleRecords.map some)
  /-- and end where they began. -/
  tour_returns : (v.performAll (List.replicate v.visibleSize .next)).openRecord? = v.openRecord?
  next_previous : v.next.previous.detail = v.detail ∧ v.next.previous.openRecord? = v.openRecord?
  previous_next : v.previous.next.detail = v.detail ∧ v.previous.next.openRecord? = v.openRecord?
  /-- No step touches the list or what it is derived from. -/
  keeps : ∀ steps : List Operation, (∀ op ∈ steps, op.IsStep) →
    (v.performAll steps).visible = v.visible ∧ (v.performAll steps).records = v.records ∧
      (v.performAll steps).filters = v.filters ∧ (v.performAll steps).mode = v.mode ∧
      (v.performAll steps).sort = v.sort

/-- A closed detail stays closed, and nothing is told. -/
theorem step_of_closed (h : v.detail = .closed) (neighbour : Nat → Nat → Option Nat) :
    v.step neighbour = v := by
  rw [step, h]

/-- The open record is the visible one at the open position. -/
theorem Settled.openRecord?_of_on (h : v.Settled) (hp : v.detail = .on p) :
    v.openRecord? = v.visibleRecords[p]? := by
  rw [openRecord?, hp, ← h.visibleRecord?_eq]
  rfl

/-- Where a run of steps leads, it shows the record. -/
theorem Settled.openRecord?_performAll (h : v.Settled) (hid : (v.records.map Record.id).Nodup)
    (hops : ∀ op ∈ ops, op.IsStep) (hp : v.detail = .on p) :
    (v.performAll ops).openRecord? =
      v.visibleRecords[Ring.shift p v.visibleSize (ops.map Operation.way).sum]? := by
  have hlist : v.SameList (v.performAll ops) :=
    sameList_performAll fun op hop => (hops op hop).travels
  rw [(h.performAll ops).openRecord?_of_on (h.detail_performAll hid hops hp),
    hlist.visibleRecords_eq]

/-- Steps that go no way in all end at the record where they began. -/
theorem Settled.undone (h : v.Settled) (hid : (v.records.map Record.id).Nodup)
    (hops : ∀ op ∈ ops, op.IsStep) (hp : v.detail = .on p)
    (hway : (ops.map Operation.way).sum = 0) :
    (v.performAll ops).detail = v.detail ∧ (v.performAll ops).openRecord? = v.openRecord? := by
  have hdetail := h.detail_performAll hid hops hp
  have hrecord := h.openRecord?_performAll hid hops hp
  rw [hway, Ring.shift_zero (h.lt_of_on hp)] at hdetail hrecord
  exact ⟨hdetail.trans hp.symm, hrecord.trans (h.openRecord?_of_on hp).symm⟩

/-- So many equal steps go so many times as far. -/
theorem sum_way_replicate (op : Operation) (k : Nat) :
    ((List.replicate k op).map Operation.way).sum = k * op.way := by
  induction k with
  | zero => simp
  | succ k ih =>
      rw [List.replicate_succ, List.map_cons, List.sum_cons, ih, Int.natCast_succ, Int.add_mul,
        Int.one_mul, Int.add_comm]

/-- The records that as many steps as there are visible records show: the visible
list, begun behind the open position. -/
theorem Settled.map_openRecord?_next (h : v.Settled) (hid : (v.records.map Record.id).Nodup)
    (hp : v.detail = .on p) :
    (List.range v.visibleSize).map (fun k =>
      (v.performAll (List.replicate (k + 1) .next)).openRecord?) =
        (v.visibleRecords.rotate (p + 1)).map some := by
  have hlength := h.length_visibleRecords
  apply List.ext_getElem
  · simp [hlength]
  · intro k hk _
    have hbound : (k + (p + 1)) % v.visibleRecords.length < v.visibleRecords.length := by
      rw [hlength]
      exact Nat.mod_lt _ (Nat.zero_lt_of_lt (h.lt_of_on hp))
    have hindex : Ring.shift p v.visibleSize ((k + 1 : Nat) * Operation.next.way) =
        (k + (p + 1)) % v.visibleRecords.length := by
      rw [Operation.way, Int.mul_one, Ring.shift_natCast, hlength]
      congr 1
      omega
    rw [List.getElem_map, List.getElem_range,
      h.openRecord?_performAll hid (forall_isStep_replicate (Or.inl rfl) _) hp, sum_way_replicate,
      hindex, List.getElem?_eq_getElem hbound, List.getElem_map, List.getElem_rotate]

/-- A settled view with distinct identities walks round its visible records. -/
theorem Settled.walksRound (h : v.Settled) (hid : (v.records.map Record.id).Nodup)
    (hp : v.detail = .on p) : v.WalksRound p where
  next_eq k := by
    rw [h.detail_performAll hid (forall_isStep_replicate (Or.inl rfl) k) hp, sum_way_replicate,
      Operation.way, Int.mul_one, Ring.shift_natCast]
  previous_eq k := by
    rw [h.detail_performAll hid (forall_isStep_replicate (Or.inr rfl) k) hp, sum_way_replicate,
      Operation.way, Int.mul_neg, Int.mul_one, Ring.shift,
      Int.sub_eq_add_neg]
  tour_perm := by
    rw [h.map_openRecord?_next hid hp]
    exact (v.visibleRecords.rotate_perm (p + 1)).map some
  tour_returns := by
    rw [h.openRecord?_performAll hid (forall_isStep_replicate (Or.inl rfl) _) hp,
      sum_way_replicate, Operation.way, Int.mul_one, Ring.shift_natCast, Nat.add_mod_right,
      Nat.mod_eq_of_lt (h.lt_of_on hp), h.openRecord?_of_on hp]
  next_previous := by
    have hsteps : ∀ op ∈ [Operation.next, .previous], op.IsStep := by simp [Operation.IsStep]
    exact h.undone hid hsteps hp rfl
  previous_next := by
    have hsteps : ∀ op ∈ [Operation.previous, .next], op.IsStep := by simp [Operation.IsStep]
    exact h.undone hid hsteps hp rfl
  keeps steps hsteps := by
    have htravels : ∀ op ∈ steps, op.Travels := fun op hop => (hsteps op hop).travels
    obtain ⟨hvisible, hrecords, -⟩ := sameList_performAll (v := v) htravels
    exact ⟨hvisible, hrecords, choices_performAll_travels htravels⟩

/-- **Stepping visits everything.**  After every run, among records with distinct
identities, steps from an open record walk round the visible list; a closed view
is not changed by them at all. -/
theorem walksRound_performAll (sort : Sorting) (mode : Matching) (ops : List Operation)
    (hid : ((((new sort mode).performAll ops).records).map Record.id).Nodup) :
    (∀ p, ((new sort mode).performAll ops).detail = .on p →
        ((new sort mode).performAll ops).WalksRound p) ∧
      (((new sort mode).performAll ops).detail = .closed →
        ((new sort mode).performAll ops).next = (new sort mode).performAll ops ∧
          ((new sort mode).performAll ops).previous = (new sort mode).performAll ops) :=
  ⟨fun _ hp => (settled_performAll sort mode ops).walksRound hid hp,
    fun hclosed => ⟨step_of_closed hclosed _, step_of_closed hclosed _⟩⟩

/-- Of three bugs the filter leaves two, and the second of them is open. -/
theorem walksRound_performAll_of_filtered :
    let bugs : List Record := [.new "Chart" "1",
      (Record.new "Chart" "2").setField "wrapsIf" (.bool true),
      (Record.new "Lang" "1").setField "wrapsIf" (.bool true)]
    let v := new.performAll
      [.navigate (.bug "Lang" "1"), .setRecords bugs, .setFilter "wrapsIf" true]
    v.visible = [1, 2] ∧ v.detail = .on 1 ∧ v.WalksRound 1 := by
  intro bugs v
  have hsettled : v.Settled := settled_performAll .default .all _
  have hvisible : v.visible = [1, 2] := by
    rw [hsettled.visible_eq]
    exact congrArg (List.map Prod.snd) (List.mergeSort_of_pairwise (by decide))
  have hdetail : v.detail = .on 1 := by
    rw [hsettled.detail_eq, resolved?, hvisible]
    rfl
  have hid : (v.records.map Record.id).Nodup := by decide
  exact ⟨hvisible, hdetail, (walksRound_performAll .default .all _ hid).1 1 hdetail⟩

end View

end DefectCatalog
