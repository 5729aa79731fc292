import DefectCatalog.Proofs.Sorting.Stability
import DefectCatalog.Proofs.View.Settled

/-!
# The visible list

The visible list is kept beside the records, filters, match mode and sort that
determine it.  `Arranged` says what it has to be: the positions of the accepted
records, each once, in the order of the sort, with ties in load order.
`arranged_performAll` says that it is so after every run.

Records and positions are sorted together (`arrange`), so the first part of the
file describes a list of such pairs.
-/

namespace DefectCatalog.View

variable (filters : Filters) (mode : Matching) (sort : Sorting) (records : List Record)

/-- A pair is arranged exactly if its record stands at its position and is accepted. -/
theorem mem_arrange {r : Record} {i : Nat} :
    (r, i) ∈ arrange filters mode sort records ↔
      records[i]? = some r ∧ filters.accepts r mode := by
  unfold arrange
  rw [(sort.sortBy_perm Prod.fst _).mem_iff, List.mem_filter,
    List.mk_mem_zipIdx_iff_getElem?]

/-- Arranged pairs follow each other by record, and by position where records
compare equal. -/
theorem pairwise_arrange :
    (arrange filters mode sort records).Pairwise fun a b =>
      sort.compare a.1 b.1 = .lt ∨ sort.compare a.1 b.1 = .eq ∧ a.2 < b.2 := by
  apply sort.pairwise_sortBy
  apply List.Pairwise.filter
  apply List.pairwise_map.mp
  rw [List.zipIdx_map_snd]
  exact List.pairwise_lt_range'

/-- The records of the arranged pairs are the accepted records, sorted. -/
theorem map_fst_arrange :
    (arrange filters mode sort records).map Prod.fst =
      sort.sort (records.filter fun r => filters.accepts r mode) := by
  have hfilter := List.filter_map (f := Prod.fst) (p := fun r => filters.accepts r mode)
    (l := records.zipIdx)
  rw [List.zipIdx_map_fst] at hfilter
  rw [arrange, sort.map_sortBy, hfilter]
  rfl

/-- Looking the positions of pairs up gives their records. -/
theorem filterMap_map_snd {pairs : List (Record × Nat)}
    (h : ∀ p ∈ pairs, records[p.2]? = some p.1) :
    ((pairs.map Prod.snd).filterMap fun i => records[i]?) = pairs.map Prod.fst := by
  induction pairs with
  | nil => rfl
  | cons p pairs ih =>
      rw [List.forall_mem_cons] at h
      simp [h.1, ih h.2]

variable {v : View}

/-- The loaded records that the filters accept, in load order. -/
def accepted (v : View) : List Record :=
  v.records.filter fun r => v.filters.accepts r v.mode

/-- The record at position `i` of the loaded records goes before the one at `j`:
it compares below it, or compares equal and was loaded earlier. -/
def Before (v : View) (i j : Nat) : Prop :=
  ∃ a b, v.records[i]? = some a ∧ v.records[j]? = some b ∧
    (v.sort.compare a b = .lt ∨ v.sort.compare a b = .eq ∧ i < j)

/-- No record goes before itself. -/
theorem not_before_self (i : Nat) : ¬ v.Before i i := by
  rintro ⟨a, b, ha, hb, hlt | ⟨-, hlt⟩⟩
  · obtain rfl : a = b := Option.some.inj (ha.symm.trans hb)
    have hself : v.sort.compare a a = .eq := Std.ReflCmp.compare_self
    rw [hself] at hlt
    cases hlt
  · exact Nat.lt_irrefl i hlt

/-- The visible list is the stable sort of the accepted records. -/
structure Arranged (v : View) : Prop where
  /-- Every position is that of a loaded record. -/
  in_range : ∀ i ∈ v.visible, i < v.records.length
  /-- No position occurs twice. -/
  once : v.visible.Nodup
  /-- The positions are those of the accepted records. -/
  mem_iff : ∀ i, i ∈ v.visible ↔ ∃ r, v.records[i]? = some r ∧ v.filters.accepts r v.mode
  /-- Records are in the order of the sort, ties in load order. -/
  ordered : v.visible.Pairwise v.Before
  /-- The visible records are the accepted records, sorted. -/
  records_eq : v.visibleRecords = v.sort.sort v.accepted

/-- The visible positions of a settled view are those of the accepted records. -/
theorem Settled.mem_visible (h : v.Settled) (i : Nat) :
    i ∈ v.visible ↔ ∃ r, v.records[i]? = some r ∧ v.filters.accepts r v.mode := by
  rw [h.visible_eq, List.mem_map]
  constructor
  · rintro ⟨⟨r, j⟩, hmem, rfl⟩
    exact ⟨r, (mem_arrange ..).mp hmem⟩
  · rintro ⟨r, hr⟩
    exact ⟨(r, i), (mem_arrange ..).mpr hr, rfl⟩

/-- Every visible position of a settled view is that of a loaded record. -/
theorem Settled.in_range (h : v.Settled) : ∀ i ∈ v.visible, i < v.records.length := by
  intro i hi
  obtain ⟨r, hr, -⟩ := (h.mem_visible i).mp hi
  exact (List.getElem?_eq_some_iff.mp hr).1

/-- The visible positions of a settled view are in the order of the sort. -/
theorem Settled.ordered (h : v.Settled) : v.visible.Pairwise v.Before := by
  rw [h.visible_eq, List.pairwise_map]
  apply List.Pairwise.imp_of_mem ?_ (pairwise_arrange ..)
  intro a b ha hb hab
  exact ⟨a.1, b.1, ((mem_arrange ..).mp ha).1, ((mem_arrange ..).mp hb).1, hab⟩

/-- No position is visible twice in a settled view. -/
theorem Settled.once (h : v.Settled) : v.visible.Nodup := by
  apply h.ordered.imp
  intro i j hij heq
  subst heq
  exact not_before_self i hij

/-- The visible records of a settled view are the accepted records, sorted. -/
theorem Settled.visibleRecords_eq (h : v.Settled) :
    v.visibleRecords = v.sort.sort v.accepted := by
  have hlook := filterMap_map_snd v.records
    (fun p hp => ((mem_arrange v.filters v.mode v.sort v.records).mp hp).1)
  rw [← h.visible_eq, map_fst_arrange] at hlook
  exact hlook

/-- **The visible list never goes stale.**  After every run, from every sort and
match mode, it is the stable sort of the records that are accepted then. -/
theorem arranged_performAll (sort : Sorting) (mode : Matching) (ops : List Operation) :
    ((new sort mode).performAll ops).Arranged := by
  have h := settled_performAll sort mode ops
  exact ⟨h.in_range, h.once, h.mem_visible, h.ordered, h.visibleRecords_eq⟩

end DefectCatalog.View
