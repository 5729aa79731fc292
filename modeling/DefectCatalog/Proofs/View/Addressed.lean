import DefectCatalog.Proofs.View.Arranged

/-!
# The open record

The detail holds a position of the visible list, and the list moves under it.
`Addressed` says what the detail has to be nevertheless: the position that the
current route resolves to in the visible records, so that the open record is the
first visible one with the route's project and commit.  `addressed_performAll`
says that it is so after every run.

Resolving scans the stored positions.  That this is a search through the visible
records rests on every position being that of a loaded record.
-/

namespace DefectCatalog

/-- Whether a route is that of a record. -/
def Route.leadsTo (route : Route) (r : Record) : Bool :=
  match route with
  | .list => false
  | .bug project id => r.isAt project id

/-- The detail that a route calls for among visible records. -/
def Route.detailIn (route : Route) (visible : List Record) : Detail :=
  match route with
  | .list => .closed
  | .bug project id => .ofPosition? (Record.position? visible project id)

/-- A route leads to exactly the records whose route it is. -/
theorem Route.leadsTo_iff {route : Route} {r : Record} :
    route.leadsTo r ↔ route = .ofRecord r := by
  cases route with
  | list => simp [leadsTo, ofRecord]
  | bug project id =>
      simp only [leadsTo, ofRecord, Record.isAt, Bool.and_eq_true, beq_iff_eq, bug.injEq]
      exact and_congr eq_comm eq_comm

/-- The position of the detail for a position is that position. -/
@[simp] theorem Detail.position?_ofPosition? (p : Option Nat) :
    (ofPosition? p).position? = p := by
  cases p <;> rfl

/-- A detail is the one for its position. -/
@[simp] theorem Detail.ofPosition?_position? (d : Detail) : ofPosition? d.position? = d := by
  cases d <;> rfl

/-- The position that a route calls for is that of the first record it leads to. -/
theorem Route.position?_detailIn (route : Route) (visible : List Record) :
    (route.detailIn visible).position? = visible.findIdx? route.leadsTo := by
  cases route with
  | list => exact (List.findIdx?_eq_none_iff.mpr fun _ _ => rfl).symm
  | bug project id => exact Detail.position?_ofPosition? _

section Lookup

variable {α β : Type} {f : α → Option β} {l : List α}

/-- Searching what a list looks up, when every lookup succeeds. -/
theorem findIdx?_filterMap_of_isSome (p : β → Bool) (h : ∀ a ∈ l, (f a).isSome) :
    (l.filterMap f).findIdx? p = l.findIdx? fun a => (f a).any p := by
  induction l with
  | nil => rfl
  | cons a l ih =>
      rw [List.forall_mem_cons] at h
      obtain ⟨b, hb⟩ := Option.isSome_iff_exists.mp h.1
      simp [hb, List.findIdx?_cons, ih h.2]

/-- Indexing what a list looks up, when every lookup succeeds. -/
theorem getElem?_filterMap_of_isSome (i : Nat) (h : ∀ a ∈ l, (f a).isSome) :
    (l.filterMap f)[i]? = l[i]?.bind f := by
  induction l generalizing i with
  | nil => rfl
  | cons a l ih =>
      rw [List.forall_mem_cons] at h
      obtain ⟨b, hb⟩ := Option.isSome_iff_exists.mp h.1
      cases i with
      | zero => simp [hb]
      | succ i => simp [hb, ih i h.2]

/-- What a list looks up is as long as the list, when every lookup succeeds. -/
theorem length_filterMap_of_isSome (h : ∀ a ∈ l, (f a).isSome) :
    (l.filterMap f).length = l.length := by
  induction l with
  | nil => rfl
  | cons a l ih =>
      rw [List.forall_mem_cons] at h
      obtain ⟨b, hb⟩ := Option.isSome_iff_exists.mp h.1
      simp [hb, ih h.2]

end Lookup

namespace View

variable {v : View}

/-- Every visible position of a settled view has a record. -/
theorem Settled.isSome_record (h : v.Settled) : ∀ i ∈ v.visible, v.records[i]?.isSome := by
  intro i hi
  rw [List.getElem?_eq_getElem (h.in_range i hi)]
  rfl

/-- The record at a visible position is that of the visible records. -/
theorem Settled.visibleRecord?_eq (h : v.Settled) (position : Nat) :
    v.visibleRecord? position = v.visibleRecords[position]? :=
  (getElem?_filterMap_of_isSome position h.isSome_record).symm

/-- There are as many visible records as visible positions. -/
theorem Settled.length_visibleRecords (h : v.Settled) :
    v.visibleRecords.length = v.visibleSize :=
  length_filterMap_of_isSome h.isSome_record

/-- Resolving the route searches the visible records. -/
theorem Settled.resolved?_eq (h : v.Settled) :
    v.resolved? = v.visibleRecords.findIdx? v.route.leadsTo := by
  unfold resolved?
  split
  · next hr => rw [hr]; exact (List.findIdx?_eq_none_iff.mpr fun _ _ => rfl).symm
  · next hr => rw [hr]; exact (findIdx?_filterMap_of_isSome _ h.isSome_record).symm

/-- The detail of a settled view is the one that its route calls for. -/
theorem Settled.detail_eq_detailIn (h : v.Settled) :
    v.detail = v.route.detailIn v.visibleRecords := by
  rw [h.detail_eq, h.resolved?_eq, ← Route.position?_detailIn, Detail.ofPosition?_position?]

/-- The open record of a settled view is the first one its route leads to. -/
theorem Settled.openRecord?_eq (h : v.Settled) :
    v.openRecord? = v.visibleRecords.find? v.route.leadsTo := by
  have hlook : v.visibleRecord? = (v.visibleRecords[·]?) := funext h.visibleRecord?_eq
  rw [openRecord?, h.detail_eq, Detail.position?_ofPosition?, h.resolved?_eq, hlook,
    List.find?_eq_bind_findIdx?_getElem?]

/-- An open position of a settled view is one of the visible list, and shows the
record that the route leads to. -/
theorem Settled.record_of_on (h : v.Settled) {p : Nat} (hp : v.detail = .on p) :
    ∃ r, v.visibleRecord? p = some r ∧ v.openRecord? = some r ∧ v.route = .ofRecord r := by
  have hfind : v.visibleRecords.findIdx? v.route.leadsTo = some p := by
    rw [← h.resolved?_eq, ← Detail.position?_ofPosition? v.resolved?, ← h.detail_eq, hp]
    rfl
  obtain ⟨hlt, hlead, -⟩ := List.findIdx?_eq_some_iff_getElem.mp hfind
  have hrecord : v.visibleRecord? p = some v.visibleRecords[p] := by
    rw [h.visibleRecord?_eq, List.getElem?_eq_getElem hlt]
  refine ⟨v.visibleRecords[p], hrecord, ?_, Route.leadsTo_iff.mp hlead⟩
  rw [openRecord?, hp]
  exact hrecord

/-- An open position of a settled view is one of the visible list. -/
theorem Settled.lt_of_on (h : v.Settled) {p : Nat} (hp : v.detail = .on p) :
    p < v.visibleSize := by
  obtain ⟨r, hr, -⟩ := h.record_of_on hp
  obtain ⟨i, hi, -⟩ := Option.bind_eq_some_iff.mp hr
  exact (List.getElem?_eq_some_iff.mp hi).1

/-- The detail shows what the route addresses, and nothing else. -/
structure Addressed (v : View) : Prop where
  /-- The detail is closed at the list, and else the position the route resolves to. -/
  detail_eq : v.detail = v.route.detailIn v.visibleRecords
  /-- The open record is the first visible one that the route leads to. -/
  open_eq : v.openRecord? = v.visibleRecords.find? v.route.leadsTo
  /-- A record is open exactly if the route is that of a visible one. -/
  open_iff : v.openRecord?.isSome ↔ ∃ r ∈ v.visibleRecords, v.route = .ofRecord r
  /-- An open position has a record, and the route is that record's. -/
  never_dangling : ∀ p, v.detail = .on p → ∃ r, v.visibleRecord? p = some r ∧
    v.openRecord? = some r ∧ v.route = .ofRecord r

/-- **The open position is never stale.**  After every run the detail is the one
that the current route calls for in the current visible list. -/
theorem addressed_performAll (sort : Sorting) (mode : Matching) (ops : List Operation) :
    ((new sort mode).performAll ops).Addressed := by
  have h := settled_performAll sort mode ops
  refine ⟨h.detail_eq_detailIn, h.openRecord?_eq, ?_, fun p hp => h.record_of_on hp⟩
  rw [h.openRecord?_eq, List.find?_isSome]
  simp only [Route.leadsTo_iff]

end View

end DefectCatalog
