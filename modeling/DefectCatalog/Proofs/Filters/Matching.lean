import DefectCatalog.Filters
import DefectCatalog.Proofs.OrderedMap.Lookup
import Mathlib.Data.Set.Insert

/-!
# What filters accept

A filter set remembers keys in the order in which they came, also inactive ones.
Matching sees none of that: it depends on the set of active keys alone
(`accepts_iff`).  `Record.Passes` says how, and its three laws compare the match
modes and larger sets of keys with smaller ones.
-/

namespace DefectCatalog

/-! ## Passing -/

namespace Record

/-- A member is true if it is there and is the boolean. -/
def IsTrue (r : Record) (key : String) : Prop :=
  r.fields.get? key = some (.bool true)

/-- Whether a record passes the active keys `keys`: without any it does; else all
of them have to be true, or one of them. -/
def Passes (r : Record) (keys : Set String) (mode : Matching) : Prop :=
  keys = ∅ ∨ (mode = .all ∧ ∀ k ∈ keys, r.IsTrue k) ∨ (mode = .any ∧ ∃ k ∈ keys, r.IsTrue k)

variable {r : Record} {keys more : Set String} {mode : Matching}

theorem flag_iff_isTrue {key : String} : r.flag key ↔ r.IsTrue key := by
  unfold flag IsTrue
  split
  · next h => simp [h]
  · next h => simpa using h

/-- What all keys let pass, any of them does. -/
theorem Passes.any_of_all (h : r.Passes keys .all) : r.Passes keys .any := by
  rcases h with hnone | ⟨-, hall⟩ | ⟨hmode, -⟩
  · exact Or.inl hnone
  · rcases keys.eq_empty_or_nonempty with hnone | ⟨k, hk⟩
    · exact Or.inl hnone
    · exact Or.inr (Or.inr ⟨rfl, k, hk, hall k hk⟩)
  · cases hmode

/-- Under `all`, further keys let no further record pass, once there is a key. -/
theorem Passes.all_of_subset (hsome : keys.Nonempty) (hsub : keys ⊆ more)
    (h : r.Passes more .all) : r.Passes keys .all := by
  rcases h with hnone | ⟨-, hall⟩ | ⟨hmode, -⟩
  · rw [hnone] at hsub
    exact absurd (Set.subset_eq_empty hsub rfl) hsome.ne_empty
  · exact Or.inr (Or.inl ⟨rfl, fun k hk => hall k (hsub hk)⟩)
  · cases hmode

/-- Under `any`, further keys keep no record from passing, once there is a key. -/
theorem Passes.any_of_subset (hsome : keys.Nonempty) (hsub : keys ⊆ more)
    (h : r.Passes keys .any) : r.Passes more .any := by
  rcases h with hnone | ⟨hmode, -⟩ | ⟨-, k, hk, htrue⟩
  · exact absurd hnone hsome.ne_empty
  · cases hmode
  · exact Or.inr (Or.inr ⟨rfl, k, hsub hk, htrue⟩)

end Record

/-! ## Active keys -/

namespace Filters

variable (f : Filters) (key other : String)

/-- The set of active keys. -/
def activeKeys : Set String :=
  { k | f.isActive k }

@[simp] theorem mem_activeKeys : key ∈ f.activeKeys ↔ f.isActive key :=
  Iff.rfl

theorem isActive_set (active : Bool) :
    (f.set key active).isActive other = if other = key then active else f.isActive other := by
  rw [isActive, set, OrderedMap.get?_insert]
  by_cases h : other = key
  · rw [if_pos h, if_pos h]
    rfl
  · rw [if_neg h, if_neg h]
    rfl

theorem isActive_toggle :
    (f.toggle key).isActive other = if other = key then !f.isActive key else f.isActive other :=
  f.isActive_set key other _

/-- Flipping a key always changes the filters. -/
theorem toggle_ne : f.toggle key ≠ f := by
  intro heq
  have hactive := f.isActive_toggle key key
  rw [heq, if_pos rfl] at hactive
  exact Bool.not_ne_self _ hactive.symm

theorem isActive_clear : f.clear.isActive key = false := by
  rw [isActive, clear, OrderedMap.get?_mapValues]
  cases f.keys.get? key <;> rfl

/-- The active keys are the keys that are active, in their order. -/
theorem active_eq_filter : f.active = f.keys.keys.filter f.isActive := by
  apply OrderedMap.filterMap_entries_eq_filter
  intro k active hget
  rw [isActive, hget]
  rfl

variable {f key}

/-- The active keys are listed, each in its place. -/
theorem mem_active_iff : key ∈ f.active ↔ f.isActive key := by
  rw [active_eq_filter, List.mem_filter, and_iff_right_iff_imp]
  intro hactive
  by_contra hunknown
  rw [isActive, OrderedMap.get?_eq_none_iff.mpr hunknown] at hactive
  cases hactive

theorem passesAll_iff : f.passesAll ↔ f.activeKeys = ∅ := by
  rw [passesAll, List.isEmpty_iff, List.eq_nil_iff_forall_not_mem, Set.eq_empty_iff_forall_notMem]
  exact forall_congr' fun _ => not_congr mem_active_iff

/-- **Matching depends on the active keys alone.** -/
theorem accepts_iff {r : Record} {mode : Matching} :
    f.accepts r mode ↔ r.Passes f.activeKeys mode := by
  unfold accepts Record.Passes
  by_cases hnone : f.passesAll
  · simp [hnone, passesAll_iff.mp hnone]
  · have hsome : f.activeKeys ≠ ∅ := fun h => hnone (passesAll_iff.mpr h)
    cases mode with
    | all => simp [hnone, hsome, mem_active_iff, Record.flag_iff_isTrue]
    | any => simp [hnone, hsome, mem_active_iff, Record.flag_iff_isTrue]

end Filters

end DefectCatalog
