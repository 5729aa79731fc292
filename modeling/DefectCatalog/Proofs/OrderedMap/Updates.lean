import DefectCatalog.Proofs.OrderedMap.Lookup
import Mathlib.Data.List.Induction

/-!
# Updates one after the other

A map that is made by updates lists its keys in the order in which they were
first named, and a key has the value that the updates of this key alone make of
the start value (`entries_updateAll`).  So updates of different keys do not
disturb each other, however they are interleaved.
-/

namespace DefectCatalog

/-- One more element stands behind the distinct ones, unless it is one of them. -/
theorem eraseDups_concat {β : Type} [DecidableEq β] (xs : List β) (x : β) :
    (xs ++ [x]).eraseDups = if x ∈ xs then xs.eraseDups else xs.eraseDups ++ [x] := by
  rw [List.eraseDups_append]
  by_cases h : x ∈ xs
  · simp [List.removeAll, h]
  · simp [List.removeAll, h, List.eraseDups_cons]

/-- The distinct elements stand in the order in which they occur first. -/
theorem pairwise_idxOf_eraseDups {β : Type} [DecidableEq β] (xs : List β) :
    xs.eraseDups.Pairwise fun x y => xs.idxOf x < xs.idxOf y := by
  induction xs using List.reverseRecOn with
  | nil => exact List.Pairwise.nil
  | append_singleton xs x ih =>
      have hkept : ∀ y ∈ xs.eraseDups, (xs ++ [x]).idxOf y = xs.idxOf y := by
        intro y hy
        exact List.idxOf_append_of_mem (List.mem_eraseDups.mp hy)
      have hbefore : xs.eraseDups.Pairwise fun y z =>
          (xs ++ [x]).idxOf y < (xs ++ [x]).idxOf z := by
        refine ih.imp_of_mem ?_
        intro y z hy hz hlt
        rw [hkept y hy, hkept z hz]
        exact hlt
      rw [eraseDups_concat]
      by_cases hx : x ∈ xs
      · rw [if_pos hx]
        exact hbefore
      · rw [if_neg hx, List.pairwise_append]
        refine ⟨hbefore, List.pairwise_singleton _ _, ?_⟩
        intro y hy z hz
        have hlast : (xs ++ [x]).idxOf x = xs.length := by
          rw [List.idxOf_append_of_notMem hx, List.idxOf_cons_self, Nat.add_zero]
        rw [List.mem_singleton.mp hz, hkept y hy, hlast]
        exact List.idxOf_lt_length_of_mem (List.mem_eraseDups.mp hy)

namespace OrderedMap

variable {α ι : Type}

/-- Changes the value of a key; a new one has the value `start`. -/
def update (m : OrderedMap α) (start : α) (k : String) (change : α → α) : OrderedMap α :=
  m.insert k (change ((m.get? k).getD start))

/-- The map that is made by items, each of which changes the value of its key. -/
def updateAll (start : α) (key : ι → String) (change : ι → α → α) (items : List ι) :
    OrderedMap α :=
  items.foldl (fun m i => m.update start (key i) (change i)) empty

section UpdateAll

variable (start : α) (key : ι → String) (change : ι → α → α)

theorem updateAll_concat (items : List ι) (i : ι) :
    updateAll start key change (items ++ [i]) =
      (updateAll start key change items).update start (key i) (change i) := by
  simp only [updateAll, List.foldl_append, List.foldl_cons, List.foldl_nil]

theorem keys_updateAll (items : List ι) :
    (updateAll start key change items).keys = (items.map key).eraseDups := by
  induction items using List.reverseRecOn with
  | nil => rfl
  | append_singleton items i ih =>
      rw [updateAll_concat, update, keys_insert, ih, List.map_append, List.map_singleton,
        eraseDups_concat]
      simp only [List.mem_eraseDups]

/-- A key has the value that its own items make. -/
theorem getD_get?_updateAll (items : List ι) (k : String) :
    ((updateAll start key change items).get? k).getD start =
      (items.filter fun i => key i = k).foldl (fun v i => change i v) start := by
  induction items using List.reverseRecOn with
  | nil => rfl
  | append_singleton items i ih =>
      rw [updateAll_concat, update, get?_insert, List.filter_append, List.foldl_append]
      by_cases h : key i = k
      · subst h
        simp [ih]
      · simp [h, Ne.symm h, ih]

/-- **Updates of different keys do not disturb each other.**  The keys stand in the
order in which they were first named, and each has the value that its own items make. -/
theorem entries_updateAll (items : List ι) :
    (updateAll start key change items).entries =
      (items.map key).eraseDups.map fun k =>
        (k, (items.filter fun i => key i = k).foldl (fun v i => change i v) start) := by
  rw [entries_eq_map_keys _ start, keys_updateAll]
  simp only [getD_get?_updateAll]

end UpdateAll

end OrderedMap

end DefectCatalog
