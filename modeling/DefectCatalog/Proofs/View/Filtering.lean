import DefectCatalog.Proofs.Filters.Matching
import DefectCatalog.Proofs.View.Arranged
import Mathlib.Data.Set.BooleanAlgebra
import Mathlib.Data.Set.SymmDiff
import Mathlib.Order.ConditionallyCompleteLattice.Basic

/-!
# Filtering depends on the active keys

Keys are switched on and off in any order, and the filter set remembers the ones
that are off.  `FilterChange.remaining` says which keys a sequence of changes
leaves active, as a computation on sets that has neither order nor memory.
`dependsOnActive_filtered` says that the visible list depends on no more: which
records it has, that two sequences with the same active keys show the same list,
and how the lists of the two match modes and of more or fewer keys compare.
-/

namespace DefectCatalog.View

/-- A change of the filters. -/
inductive FilterChange where
  | toggle (key : String)
  | set (key : String) (active : Bool)
  | clear

namespace FilterChange

/-- The operation on a view that makes the change. -/
def operation : FilterChange → Operation
  | toggle key => .toggleFilter key
  | set key active => .setFilter key active
  | clear => .resetFilters

/-- The keys that are active after a change of the active keys `keys`. -/
def apply (keys : Set String) : FilterChange → Set String
  | toggle key => symmDiff keys {key}
  | set key true => insert key keys
  | set key false => keys \ {key}
  | clear => ∅

/-- The keys that changes leave active. -/
def remaining (changes : List FilterChange) : Set String :=
  changes.foldl apply ∅

end FilterChange

open FilterChange (remaining)

/-- The view of records after changes of the filters. -/
def filtered (records : List Record) (sort : Sorting) (mode : Matching)
    (changes : List FilterChange) : View :=
  ((new sort mode).setRecords records).performAll (changes.map FilterChange.operation)

/-- What the visible list of records has to do with the active keys. -/
structure DependsOnActive (records : List Record) (sort : Sorting) : Prop where
  /-- The active keys are those that the changes leave active. -/
  mem_active_iff : ∀ mode changes k,
    k ∈ (filtered records sort mode changes).filters.active ↔ k ∈ remaining changes
  /-- The visible records are those that pass these keys. -/
  mem_visible_iff : ∀ mode changes i, i ∈ (filtered records sort mode changes).visible ↔
    ∃ r, records[i]? = some r ∧ r.Passes (remaining changes) mode
  /-- Changes that leave the same keys active show the same list. -/
  visible_eq : ∀ mode changes others, remaining changes = remaining others →
    (filtered records sort mode changes).visible = (filtered records sort mode others).visible
  /-- What is visible under `all` is visible under `any`. -/
  all_subset_any : ∀ changes,
    (filtered records sort .all changes).visible ⊆ (filtered records sort .any changes).visible
  /-- Under `all`, more keys show no further record. -/
  all_antitone : ∀ changes others, (remaining changes).Nonempty →
    remaining changes ⊆ remaining others →
    (filtered records sort .all others).visible ⊆ (filtered records sort .all changes).visible
  /-- Under `any`, more keys hide no record. -/
  any_monotone : ∀ changes others, (remaining changes).Nonempty →
    remaining changes ⊆ remaining others →
    (filtered records sort .any changes).visible ⊆ (filtered records sort .any others).visible

variable {v : View}

/-- A change of the filters acts on the active keys as it does on a set. -/
theorem activeKeys_perform (v : View) (change : FilterChange) :
    (v.perform change.operation).2.filters.activeKeys = change.apply v.filters.activeKeys := by
  ext k
  cases change with
  | toggle key =>
      have hactive : (v.filters.toggle key).isActive k ↔ _ :=
        iff_of_eq (congrArg (· = true) (v.filters.isActive_toggle key k))
      refine hactive.trans ?_
      by_cases h : k = key
      · simp [h, FilterChange.apply, Set.mem_symmDiff]
      · simp [h, FilterChange.apply, Set.mem_symmDiff]
  | set key active =>
      have hactive : (v.filters.set key active).isActive k ↔ _ :=
        iff_of_eq (congrArg (· = true) (v.filters.isActive_set key k active))
      refine hactive.trans ?_
      by_cases h : k = key <;> cases active <;> simp [h, FilterChange.apply]
  | clear =>
      have hactive : v.filters.clear.isActive k = false := v.filters.isActive_clear k
      exact iff_of_false (Bool.eq_false_iff.mp hactive) id

/-- Changes of the filters act on the active keys as they do on a set, and leave
alone what else the visible list depends on. -/
theorem performAll_changes (v : View) (changes : List FilterChange) :
    let w := v.performAll (changes.map FilterChange.operation)
    w.filters.activeKeys = changes.foldl FilterChange.apply v.filters.activeKeys ∧
      w.records = v.records ∧ w.sort = v.sort ∧ w.mode = v.mode := by
  induction changes generalizing v with
  | nil => exact ⟨rfl, rfl, rfl, rfl⟩
  | cons change changes ih =>
      obtain ⟨hkeys, hrecords, hsort, hmode⟩ := ih (v.perform change.operation).2
      rw [activeKeys_perform] at hkeys
      refine ⟨hkeys, hrecords.trans ?_, hsort.trans ?_, hmode.trans ?_⟩ <;> cases change <;> rfl

/-- The list of a settled view has the records that pass the active keys. -/
theorem Settled.mem_visible_iff_passes (h : v.Settled) (i : Nat) :
    i ∈ v.visible ↔ ∃ r, v.records[i]? = some r ∧ r.Passes v.filters.activeKeys v.mode := by
  rw [h.mem_visible]
  exact exists_congr fun r => and_congr_right fun _ => Filters.accepts_iff

/-- Settled views of the same records, with the same sort and match mode, show the
same list if the same keys are active. -/
theorem Settled.visible_eq_of_activeKeys {w : View} (hv : v.Settled) (hw : w.Settled)
    (hrecords : v.records = w.records) (hsort : v.sort = w.sort) (hmode : v.mode = w.mode)
    (hkeys : v.filters.activeKeys = w.filters.activeKeys) : v.visible = w.visible := by
  have haccepts : ∀ p : Record × Nat,
      v.filters.accepts p.1 v.mode = w.filters.accepts p.1 w.mode := by
    intro p
    rw [Bool.eq_iff_iff, Filters.accepts_iff, Filters.accepts_iff, hkeys, hmode]
  rw [hv.visible_eq, hw.visible_eq, arrange, arrange, hrecords, hsort]
  simp only [haccepts]

section Filtered

variable (records : List Record) (sort : Sorting) (mode : Matching) (changes : List FilterChange)

theorem settled_filtered : (filtered records sort mode changes).Settled :=
  (settled_refresh _).performAll _

theorem activeKeys_filtered :
    (filtered records sort mode changes).filters.activeKeys = remaining changes := by
  have hnone : ((new sort mode).setRecords records).filters.activeKeys = ∅ :=
    Set.eq_empty_of_forall_notMem fun _ => Bool.false_ne_true
  have hkeys := (performAll_changes ((new sort mode).setRecords records) changes).1
  rw [hnone] at hkeys
  exact hkeys

theorem mem_visible_filtered (i : Nat) :
    i ∈ (filtered records sort mode changes).visible ↔
      ∃ r, records[i]? = some r ∧ r.Passes (remaining changes) mode := by
  obtain ⟨-, hrecords, -, hmode⟩ := performAll_changes ((new sort mode).setRecords records) changes
  rw [(settled_filtered records sort mode changes).mem_visible_iff_passes, activeKeys_filtered,
    filtered, hrecords, hmode]
  rfl

/-- What lets every record pass that passed before hides none. -/
theorem visible_filtered_subset {mode' : Matching} {others : List FilterChange}
    (h : ∀ r : Record, r.Passes (remaining changes) mode → r.Passes (remaining others) mode') :
    (filtered records sort mode changes).visible ⊆
      (filtered records sort mode' others).visible := by
  intro i hi
  obtain ⟨r, hr, hpasses⟩ := (mem_visible_filtered ..).mp hi
  exact (mem_visible_filtered ..).mpr ⟨r, hr, h r hpasses⟩

end Filtered

/-- **Filtering depends only on which keys are active**, whatever the records and
the sort are, and whatever changes of the filters led there. -/
theorem dependsOnActive_filtered (records : List Record) (sort : Sorting) :
    DependsOnActive records sort where
  mem_active_iff mode changes k := by
    rw [Filters.mem_active_iff, ← activeKeys_filtered records sort mode changes]
    exact Iff.rfl
  mem_visible_iff := mem_visible_filtered records sort
  visible_eq mode changes others heq := by
    have hstart := performAll_changes ((new sort mode).setRecords records)
    obtain ⟨-, hrecords, hsort, hmode⟩ := hstart changes
    obtain ⟨-, hrecords', hsort', hmode'⟩ := hstart others
    have hkeys : (filtered records sort mode changes).filters.activeKeys =
        (filtered records sort mode others).filters.activeKeys := by
      rw [activeKeys_filtered, activeKeys_filtered, heq]
    exact (settled_filtered records sort mode changes).visible_eq_of_activeKeys
      (settled_filtered records sort mode others) (hrecords.trans hrecords'.symm)
      (hsort.trans hsort'.symm) (hmode.trans hmode'.symm) hkeys
  all_subset_any changes :=
    visible_filtered_subset records sort .all changes fun _ => Record.Passes.any_of_all
  all_antitone changes others hsome hsub :=
    visible_filtered_subset records sort .all others fun _ => Record.Passes.all_of_subset hsome hsub
  any_monotone changes others hsome hsub :=
    visible_filtered_subset records sort .any changes fun _ =>
      Record.Passes.any_of_subset hsome hsub

end DefectCatalog.View
