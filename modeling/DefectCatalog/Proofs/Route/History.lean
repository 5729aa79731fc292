import DefectCatalog.Route
import Mathlib.Data.List.Chain

/-!
# Histories

A history is a stack of routes in which no route follows itself: `push` refuses
the current route, and forgetting the oldest route or the newest one keeps the
rest as it was.  It never outgrows its limit.
-/

namespace DefectCatalog

/-- No route of a history is followed by itself. -/
def History.Alternates (h : History) : Prop :=
  (h.current :: h.past).IsChain (· ≠ ·)

/-- Entering another route keeps a history alternating. -/
theorem History.Alternates.push {h : History} (halt : h.Alternates) {r : Route}
    (hr : h.current ≠ r) : (h.push r).Alternates := by
  have hchain : (r :: h.current :: h.past).IsChain (· ≠ ·) :=
    List.isChain_cons_cons.mpr ⟨Ne.symm hr, halt⟩
  simpa only [Alternates, History.push, if_neg hr, List.take_succ_cons] using
    hchain.take (h.limit - 1 + 1)

/-- The history before the current route alternates, and its route is another one. -/
theorem History.Alternates.back {h before : History} (halt : h.Alternates)
    (hback : h.back? = some before) : before.Alternates ∧ before.current ≠ h.current := by
  unfold back? at hback
  split at hback
  · cases hback
  · next r rest hpast =>
      obtain rfl := Option.some.inj hback
      rw [Alternates, hpast, List.isChain_cons_cons] at halt
      exact ⟨halt.2, Ne.symm halt.1⟩

namespace History

variable {h before : History} {r : Route}

/-- The route that is entered is current. -/
theorem current_push : (h.push r).current = r := by
  unfold push
  split
  · assumption
  · rfl

/-- Going where one is changes nothing. -/
theorem push_current (h : History) : h.push h.current = h :=
  if_pos rfl

theorem limit_push : (h.push r).limit = h.limit := by
  unfold push
  split <;> rfl

/-- Entering another route puts the current one before it. -/
theorem past_push (hr : h.current ≠ r) :
    (h.push r).past = (h.current :: h.past).take (h.limit - 1) := by
  rw [push, if_neg hr]

/-- The size of a history is the number of its entries. -/
theorem length_entries (h : History) : h.entries.length = h.size := by
  simp [entries, size]

/-- The last entry is where one is. -/
theorem getLast?_entries (h : History) : h.entries.getLast? = some h.current := by
  simp [entries]

/-- Neighbouring entries are different ones. -/
theorem Alternates.isChain_entries (halt : h.Alternates) : h.entries.IsChain (· ≠ ·) := by
  have hentries : h.entries = (h.current :: h.past).reverse := by simp [entries]
  rw [hentries, List.isChain_reverse]
  exact halt.imp fun _ _ => Ne.symm

/-- There is nothing to go back to exactly if there is one entry. -/
theorem back?_eq_none_iff : h.back? = none ↔ h.size = 1 := by
  obtain ⟨current, past, limit⟩ := h
  cases past <;> simp [back?, size]

/-- A history made for `limit` routes holds no more of them. -/
structure Within (h : History) (limit : Nat) : Prop where
  limit_eq : h.limit = limit
  size_le : h.size ≤ limit

/-- A history that starts is within its limit, which is two at least. -/
theorem within_new (limit : Nat) : (new limit).Within (max limit 2) where
  limit_eq := rfl
  size_le := by
    simp only [new, size, List.length_nil]
    omega

/-- Going elsewhere stays within the limit. -/
theorem Within.push {limit : Nat} (hw : h.Within limit) (hr : h.current ≠ r) :
    (h.push r).Within limit where
  limit_eq := limit_push.trans hw.limit_eq
  size_le := by
    have hsize := hw.size_le
    rw [size] at hsize
    rw [size, past_push hr, hw.limit_eq, List.length_take]
    omega

/-- Going back stays within the limit. -/
theorem Within.back {limit : Nat} (hw : h.Within limit) (hback : h.back? = some before) :
    before.Within limit := by
  obtain ⟨current, past, _⟩ := h
  cases past with
  | nil => cases hback
  | cons r rest =>
      obtain rfl := Option.some.inj hback
      have hsize := hw.size_le
      simp only [size, List.length_cons] at hsize
      refine ⟨hw.limit_eq, ?_⟩
      simp only [size]
      omega

end History

end DefectCatalog
