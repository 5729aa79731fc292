import DefectCatalog.Proofs.OrderedMap.Updates
import DefectCatalog.Proofs.View.Filtering
import Mathlib.Logic.Function.Basic

/-!
# What filters remember

A filter set keeps the place of a key that is switched off, and nothing takes a key
out again.  So after any changes the set has the keys that were mentioned, in the
order in which they came first, each in the state that a total function on keys has
after the same changes (`Holds.change`, `Holds.changeAll`).  The list of active keys,
their number and whether every record passes are read off these two
(`remembers_changeAll`).
-/

namespace DefectCatalog

namespace View.FilterChange

/-- The states of all keys after a change. -/
def assign (state : String → Bool) : FilterChange → String → Bool
  | toggle key => Function.update state key (!state key)
  | set key active => Function.update state key active
  | clear => fun _ => false

/-- The key that a change mentions. -/
def key? : FilterChange → Option String
  | toggle key => some key
  | set key _ => some key
  | clear => none

end View.FilterChange

namespace Filters

open View (FilterChange)

/-! ## Changes -/

/-- The filters after a change. -/
def change (f : Filters) : FilterChange → Filters
  | .toggle key => (f.flip key).2
  | .set key active => f.set key active
  | .clear => f.clear

/-- The filters after changes one after the other. -/
def changeAll (f : Filters) (changes : List FilterChange) : Filters :=
  changes.foldl change f

/-- The states of all keys after changes of those where the keys `start` are active. -/
def stateAfter (start : List String) (changes : List FilterChange) : String → Bool :=
  changes.foldl FilterChange.assign fun k => k ∈ start

/-- The keys that are mentioned, at the start and by changes. -/
def mentioned (start : List String) (changes : List FilterChange) : List String :=
  start ++ changes.filterMap FilterChange.key?

/-- What is known of filters that had the active keys `start`, after changes. -/
structure Remembers (f : Filters) (start : List String) (changes : List FilterChange) : Prop where
  /-- Every key is in the state that the changes leave it in. -/
  isActive_eq : ∀ k, (f.changeAll changes).isActive k = stateAfter start changes k
  /-- A flip is one change more, and answers the state after it. -/
  flip_eq : ∀ k, (f.changeAll changes).flip k =
    (stateAfter start (changes ++ [.toggle k]) k, f.changeAll (changes ++ [.toggle k]))
  /-- The active keys are listed. -/
  mem_active_iff : ∀ k, k ∈ (f.changeAll changes).active ↔ stateAfter start changes k
  /-- Each is listed once. -/
  nodup_active : (f.changeAll changes).active.Nodup
  /-- They stand in the order in which they were first mentioned. -/
  pairwise_active : (f.changeAll changes).active.Pairwise fun j k =>
    (mentioned start changes).idxOf j < (mentioned start changes).idxOf k
  /-- As many keys are counted as are listed. -/
  activeCount_eq : (f.changeAll changes).activeCount = (f.changeAll changes).active.length
  /-- Every record passes if and only if none is listed. -/
  passesAll_iff : (f.changeAll changes).passesAll ↔ (f.changeAll changes).active = []

/-! ## Keys and their states -/

theorem nodup_active (f : Filters) : f.active.Nodup := by
  have hkeys : f.keys.keys.Nodup := f.keys.nodup
  rw [active_eq_filter]
  exact hkeys.sublist List.filter_sublist

/-- The filters have the keys `mentioned`, in the order in which they came first, in
the states `state`. -/
structure Holds (f : Filters) (state : String → Bool) (mentioned : List String) : Prop where
  keys_eq : f.keys.keys = mentioned.eraseDups
  isActive_eq : ∀ k, f.isActive k = state k

theorem holds_empty : empty.Holds (fun _ => false) [] where
  keys_eq := rfl
  isActive_eq _ := rfl

namespace Holds

variable {f : Filters} {state : String → Bool} {mentioned : List String}

protected theorem set (h : f.Holds state mentioned) (key : String) (active : Bool) :
    (f.set key active).Holds (Function.update state key active) (mentioned ++ [key]) where
  keys_eq := by
    rw [set, OrderedMap.keys_insert, h.keys_eq, eraseDups_concat]
    simp only [List.mem_eraseDups]
  isActive_eq k := by
    rw [isActive_set, Function.update_apply, h.isActive_eq]

protected theorem clear (h : f.Holds state mentioned) :
    f.clear.Holds (fun _ => false) mentioned where
  keys_eq := by
    rw [clear, OrderedMap.keys_mapValues, h.keys_eq]
  isActive_eq k := f.isActive_clear k

/-- **One change** puts the key that it mentions at the end, if it is new, and assigns
its state. -/
protected theorem change (h : f.Holds state mentioned) (c : FilterChange) :
    (f.change c).Holds (c.assign state) (mentioned ++ c.key?.toList) := by
  cases c with
  | toggle key =>
      have hset := h.set key (!f.isActive key)
      rw [h.isActive_eq key] at hset
      rw [change, flip, toggle, h.isActive_eq key]
      exact hset
  | set key active => exact h.set key active
  | clear =>
      have hclear := h.clear
      rw [← List.append_nil mentioned] at hclear
      exact hclear

/-- A run of changes does to the states what it does to a function on keys. -/
protected theorem changeAll (h : f.Holds state mentioned) (changes : List FilterChange) :
    (f.changeAll changes).Holds (changes.foldl FilterChange.assign state)
      (mentioned ++ changes.filterMap FilterChange.key?) := by
  induction changes generalizing f state mentioned with
  | nil =>
      rw [List.filterMap_nil, List.append_nil]
      exact h
  | cons c changes ih =>
      have hkeys : (c :: changes).filterMap FilterChange.key? =
          c.key?.toList ++ changes.filterMap FilterChange.key? := by
        cases c <;> rfl
      have hrest := ih (h.change c)
      rw [List.append_assoc, ← hkeys] at hrest
      exact hrest

/-- The active keys are those of the mentioned ones whose state is active. -/
theorem active_eq (h : f.Holds state mentioned) :
    f.active = mentioned.eraseDups.filter state := by
  have hstate : f.isActive = state := funext h.isActive_eq
  rw [active_eq_filter, h.keys_eq, hstate]

end Holds

/-- A set that starts with active keys has these, active. -/
theorem holds_ofActive (keys : List String) : (ofActive keys).Holds (fun k => k ∈ keys) keys := by
  induction keys using List.reverseRecOn with
  | nil => exact holds_empty
  | append_singleton keys key ih =>
      have hset := ih.set key true
      have hstate : Function.update (fun k => decide (k ∈ keys)) key true =
          fun k => decide (k ∈ keys ++ [key]) := by
        funext k
        by_cases hk : k = key
        · simp [hk]
        · simp [hk]
      have hofActive : ofActive (keys ++ [key]) = (ofActive keys).set key true := by
        simp only [ofActive, List.foldl_append, List.foldl_cons, List.foldl_nil]
      rw [hofActive, ← hstate]
      exact hset

/-! ## What is read off -/

theorem changeAll_concat (f : Filters) (changes : List FilterChange) (c : FilterChange) :
    f.changeAll (changes ++ [c]) = (f.changeAll changes).change c := by
  simp only [changeAll, List.foldl_append, List.foldl_cons, List.foldl_nil]

theorem stateAfter_concat_toggle (start : List String) (changes : List FilterChange) (k : String) :
    stateAfter start (changes ++ [.toggle k]) k = !stateAfter start changes k := by
  simp [stateAfter, FilterChange.assign]

/-- What the filters hold at the start is remembered after every change. -/
theorem Holds.remembers {f : Filters} {start : List String}
    (h : f.Holds (fun k => k ∈ start) start) (changes : List FilterChange) :
    f.Remembers start changes := by
  have hafter : (f.changeAll changes).Holds (stateAfter start changes) (mentioned start changes) :=
    h.changeAll changes
  refine ⟨hafter.isActive_eq, ?_, ?_, nodup_active _, ?_, rfl, List.isEmpty_iff⟩
  · intro k
    rw [flip, hafter.isActive_eq, stateAfter_concat_toggle, changeAll_concat]
    rfl
  · intro k
    rw [mem_active_iff, hafter.isActive_eq]
  · rw [hafter.active_eq]
    exact (pairwise_idxOf_eraseDups _).filter _

/-- **Filters remember what was mentioned**, whether they start without keys or with
active ones, and whatever is set, flipped and cleared then. -/
theorem remembers_changeAll (changes : List FilterChange) :
    empty.Remembers [] changes ∧ ∀ keys, (ofActive keys).Remembers keys changes :=
  ⟨(holds_ofActive []).remembers changes, fun keys => (holds_ofActive keys).remembers changes⟩

end Filters

end DefectCatalog
