import DefectCatalog.Proofs.Sorting.Clicks
import DefectCatalog.Proofs.Sorting.Kinds
import DefectCatalog.Proofs.View.Arranged
import DefectCatalog.Proofs.View.Stepping

/-!
# The sort that a reader chose

The sort of a view changes by clicks on columns and by nothing else
(`sort_perform`), and the visible list is in the order of the field that it
compares, in its direction (`Settled.orderedOn`).
-/

namespace DefectCatalog

namespace View

variable {v : View} {op : Operation} {ops : List Operation}

/-- Whether an operation is no click on a column. -/
def Operation.LeavesSort : Operation → Prop
  | .sortBy _ => False
  | _ => True

theorem sort_setMode (v : View) (mode : Matching) : (v.setMode mode).sort = v.sort := by
  unfold setMode
  split
  · rfl
  · rfl

theorem sort_activateFilters (v : View) (keys : List String) :
    (v.activateFilters keys).sort = v.sort := by
  unfold activateFilters
  induction keys generalizing v with
  | nil => rfl
  | cons key keys ih => exact ih (v.setFilter key true)

theorem sort_back (v : View) : v.back.2.sort = v.sort := by
  unfold back
  split
  · rfl
  · rfl

theorem Operation.Travels.sort_eq (hop : op.Travels) (v : View) :
    (v.perform op).2.sort = v.sort := by
  have hall : ∀ op' ∈ [op], op'.Travels := by simpa using hop
  exact (choices_performAll_travels hall).2.2

/-- Only a click on a column changes the sort. -/
theorem sort_perform (v : View) (hop : op.LeavesSort) : (v.perform op).2.sort = v.sort := by
  cases op with
  | sortBy fields => exact hop.elim
  | navigate r => exact Operation.Travels.sort_eq (.navigate r) v
  | openAt position => exact Operation.Travels.sort_eq (.openAt position) v
  | close => exact Operation.Travels.close.sort_eq v
  | next => exact Operation.Travels.next.sort_eq v
  | previous => exact Operation.Travels.previous.sort_eq v
  | back => exact v.sort_back
  | activateFilters keys => exact v.sort_activateFilters keys
  | setMode mode => exact v.sort_setMode mode
  | toggleMode => exact v.sort_setMode v.mode.toggled
  | count key =>
      obtain ⟨counts, heq⟩ := v.count_eq_with_counts key
      show (v.count key).2.sort = v.sort
      rw [heq]
  | setRecords | setTaxonomy | toggleFilter | setFilter | resetFilters | drain => rfl

theorem sort_performAll (hops : ∀ op ∈ ops, op.LeavesSort) :
    (v.performAll ops).sort = v.sort := by
  induction ops generalizing v with
  | nil => rfl
  | cons op ops ih =>
      rw [List.forall_mem_cons] at hops
      rw [performAll_cons, ih hops.2, v.sort_perform hops.1]

/-- No visible record has a value of a field that goes before that of an earlier
one; with the direction reversed, none has one that goes behind it. -/
def OrderedOn (v : View) (field : String) : Prop :=
  v.visibleRecords.Pairwise fun a b =>
    if v.sort.reverse then ¬ (a.field field).Below (b.field field)
    else ¬ (b.field field).Below (a.field field)

/-- The list of a settled view is ordered on the field that it is sorted by. -/
theorem Settled.orderedOn (h : v.Settled) {field : String} (hfield : v.sort.primary? = some field) :
    v.OrderedOn field := by
  have hsorted : v.visibleRecords.Pairwise fun a b => (v.sort.compare a b).isLE := by
    rw [h.visibleRecords_eq]
    exact v.sort.pairwise_isLE_sortBy id v.accepted
  apply hsorted.imp
  intro a b hab
  simp only [Sorting.compare, hfield] at hab
  cases hreverse : v.sort.reverse with
  | false =>
      simp only [hreverse, Bool.false_eq_true, if_false] at hab ⊢
      rw [← Datum.compare_eq_lt_iff, Datum.compare_swap]
      cases hc : (a.field field).compare (b.field field) <;> simp [hc] at hab ⊢
  | true =>
      simp only [hreverse, if_true] at hab ⊢
      rw [← Datum.compare_eq_lt_iff]
      cases hc : (a.field field).compare (b.field field) <;> simp [hc] at hab ⊢

end View

end DefectCatalog
