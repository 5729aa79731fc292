import DefectCatalog.OrderedMap
import Mathlib.Data.List.Nodup

/-!
# Putting and looking up keys

A new key is put at the end, a known one keeps its place.  A lookup finds the
first pair of its key.  Where keys are distinct, that is the only one, so looking
up is membership (`lookup?_eq_some_iff`).  Pairs that are put one after the other
leave for each key the last value it was given (`lookup?_putAll`).  A map has distinct
keys, so it is its keys with what is looked up (`entries_eq_map_keys`).
-/

namespace DefectCatalog

namespace Keyed

variable {α β : Type} {entries : List (String × α)} {k : String} {v : α}

/-! ## Putting -/

/-- Setting the value of a key keeps the keys distinct. -/
theorem nodup_keys_put (h : (keys entries).Nodup) (k : String) (v : α) :
    (keys (put entries k v)).Nodup :=
  (OrderedMap.insert ⟨entries, h⟩ k v).nodup

/-- After setting the value of a key, every pair was there before or is the new one. -/
theorem mem_put {e : String × α} (h : e ∈ put entries k v) : e ∈ entries ∨ e = (k, v) := by
  induction entries with
  | nil => exact Or.inr (List.mem_singleton.mp h)
  | cons a entries ih =>
      unfold put at h
      split at h
      · rcases List.mem_cons.mp h with rfl | h
        · exact Or.inr rfl
        · exact Or.inl (List.mem_cons_of_mem a h)
      · rcases List.mem_cons.mp h with rfl | h
        · exact Or.inl List.mem_cons_self
        · exact (ih h).imp_left (List.mem_cons_of_mem a)

/-- A new key is put last. -/
theorem put_of_not_mem (h : k ∉ keys entries) (v : α) :
    put entries k v = entries ++ [(k, v)] := by
  induction entries with
  | nil => rfl
  | cons e entries ih =>
      rw [keys, List.map_cons, List.mem_cons, not_or] at h
      rw [put, if_neg (Ne.symm h.1), ih h.2, List.cons_append]

/-- Setting a known key to another value changes nothing before and after it. -/
theorem put_append_cons (h : k ∉ keys entries) (v w : α) (after : List (String × α)) :
    put (entries ++ (k, v) :: after) k w = entries ++ (k, w) :: after := by
  induction entries with
  | nil => exact if_pos rfl
  | cons e entries ih =>
      rw [keys, List.map_cons, List.mem_cons, not_or] at h
      rw [List.cons_append, put, if_neg (Ne.symm h.1), ih h.2, List.cons_append]

/-- Puts pairs one after the other. -/
def putAll (entries pairs : List (String × α)) : List (String × α) :=
  pairs.foldl (fun es e => put es e.1 e.2) entries

/-- Putting pairs in keeps the keys distinct. -/
theorem nodup_keys_putAll (hnodup : (keys entries).Nodup) (pairs : List (String × α)) :
    (keys (putAll entries pairs)).Nodup := by
  induction pairs generalizing entries with
  | nil => exact hnodup
  | cons e pairs ih => exact ih (nodup_keys_put hnodup e.1 e.2)

/-- Pairs with new keys are put as they are. -/
theorem putAll_of_nodup {pairs : List (String × α)} (h : (keys (entries ++ pairs)).Nodup) :
    putAll entries pairs = entries ++ pairs := by
  induction pairs generalizing entries with
  | nil => exact (List.append_nil entries).symm
  | cons e pairs ih =>
      have hnew : e.1 ∉ keys entries := by
        rw [keys, List.map_append, List.nodup_append] at h
        exact fun hmem => h.2.2 _ hmem _ List.mem_cons_self rfl
      have hput : put entries e.1 e.2 = entries ++ [e] := put_of_not_mem hnew e.2
      have hassoc : entries ++ e :: pairs = entries ++ [e] ++ pairs := by simp
      rw [hassoc] at h ⊢
      rw [← ih h, ← hput]
      rfl

/-! ## Looking up -/

/-- Looking a key up finds its first entry. -/
theorem lookup?_eq_find? (entries : List (String × α)) (k : String) :
    lookup? entries k = (entries.find? fun e => e.1 = k).map Prod.snd := by
  induction entries with
  | nil => rfl
  | cons e entries ih =>
      rw [lookup?, List.find?_cons]
      by_cases h : e.1 = k
      · simp [h]
      · simp [h, ih]

/-- A key is found unless it is not there. -/
theorem lookup?_eq_none_iff : lookup? entries k = none ↔ k ∉ keys entries := by
  rw [lookup?_eq_find?, Option.map_eq_none_iff, List.find?_eq_none, keys, List.mem_map]
  constructor
  · rintro h ⟨e, he, rfl⟩
    exact h e he (by simp)
  · intro h e he heq
    exact h ⟨e, he, by simpa using heq⟩

/-- What is found is an entry. -/
theorem mem_of_lookup? (h : lookup? entries k = some v) : (k, v) ∈ entries := by
  rw [lookup?_eq_find?] at h
  obtain ⟨e, he, rfl⟩ := Option.map_eq_some_iff.mp h
  have hkey : e.1 = k := by simpa using List.find?_some he
  exact hkey ▸ List.mem_of_find?_eq_some he

/-- Among distinct keys, what is looked up is what is there. -/
theorem lookup?_eq_some_iff (hnodup : (keys entries).Nodup) :
    lookup? entries k = some v ↔ (k, v) ∈ entries := by
  refine ⟨mem_of_lookup?, fun hmem => ?_⟩
  induction entries with
  | nil => cases hmem
  | cons e entries ih =>
      rw [keys, List.map_cons, List.nodup_cons] at hnodup
      rcases List.mem_cons.mp hmem with rfl | hmem
      · exact if_pos rfl
      · have hne : e.1 ≠ k := fun heq => hnodup.1 (heq ▸ List.mem_map_of_mem (f := Prod.fst) hmem)
        rw [lookup?, if_neg hne]
        exact ih hnodup.2 hmem

/-- Of two parts the first one counts. -/
theorem lookup?_append (before after : List (String × α)) (k : String) :
    lookup? (before ++ after) k = (lookup? before k).or (lookup? after k) := by
  rw [lookup?_eq_find?, List.find?_append, Option.map_or, ← lookup?_eq_find?, ← lookup?_eq_find?]

/-- Behind other keys, a pair is found by its own. -/
theorem lookup?_append_cons {before : List (String × α)} {m : String × α}
    (h : m.1 ∉ keys before) (after : List (String × α)) (k : String) :
    lookup? (before ++ m :: after) k =
      if m.1 = k then some m.2 else lookup? (before ++ after) k := by
  induction before with
  | nil => rfl
  | cons e before ih =>
      rw [keys, List.map_cons, List.mem_cons, not_or] at h
      rw [List.cons_append, List.cons_append, lookup?, lookup?, ih h.2]
      by_cases he : e.1 = k
      · have hm : m.1 ≠ k := fun hm => h.1 (hm.trans he.symm)
        rw [if_pos he, if_pos he, if_neg hm]
      · rw [if_neg he, if_neg he]

/-- Changing the values changes what is found. -/
theorem lookup?_map (f : α → β) (entries : List (String × α)) (k : String) :
    lookup? (entries.map fun e => (e.1, f e.2)) k = (lookup? entries k).map f := by
  induction entries with
  | nil => rfl
  | cons e entries ih =>
      rw [List.map_cons, lookup?, lookup?, ih]
      split <;> rfl

/-- What each pair lists is tagged with its key.  Among distinct keys, what is
tagged with one of them is what that pair lists. -/
theorem filter_flatMap_of_nodup (hnodup : (keys entries).Nodup) (k : String)
    (list : String → α → List β) {tag : β → String} (htag : ∀ j a, ∀ b ∈ list j a, tag b = j) :
    ((entries.flatMap fun e => list e.1 e.2).filter fun b => tag b = k) =
      ((lookup? entries k).map (list k)).getD [] := by
  induction entries with
  | nil => rfl
  | cons e entries ih =>
      rw [keys, List.map_cons, List.nodup_cons] at hnodup
      rw [List.flatMap_cons, List.filter_append, lookup?, ih hnodup.2]
      by_cases h : e.1 = k
      · have hnone : lookup? entries k = none := lookup?_eq_none_iff.mpr (h ▸ hnodup.1)
        have hall : ((list e.1 e.2).filter fun b => tag b = k) = list e.1 e.2 :=
          List.filter_eq_self.mpr fun b hb => decide_eq_true ((htag _ _ b hb).trans h)
        rw [if_pos h, hnone, hall, h, Option.map_none, Option.getD_none, List.append_nil]
        rfl
      · have hnothing : ((list e.1 e.2).filter fun b => tag b = k) = [] :=
          List.filter_eq_nil_iff.mpr fun b hb hk =>
            h ((htag _ _ b hb).symm.trans (of_decide_eq_true hk))
        rw [if_neg h, hnothing, List.nil_append]

/-- Among distinct keys, the lists of different pairs have nothing in common. -/
theorem nodup_flatMap_of_nodup (hnodup : (keys entries).Nodup) {list : String → α → List β}
    (hlist : ∀ e ∈ entries, (list e.1 e.2).Nodup) {tag : β → String}
    (htag : ∀ j a, ∀ b ∈ list j a, tag b = j) :
    (entries.flatMap fun e => list e.1 e.2).Nodup := by
  have hkeys : entries.Pairwise fun e e' => e.1 ≠ e'.1 := List.pairwise_map.mp hnodup
  rw [List.nodup_flatMap]
  refine ⟨hlist, ?_⟩
  apply hkeys.imp
  intro e e' hne b hb hb'
  exact hne ((htag _ _ b hb).symm.trans (htag _ _ b hb'))

/-! ## The last value -/

/-- The value of the last pair with the key `k`. -/
def last? (entries : List (String × α)) (k : String) : Option α :=
  lookup? entries.reverse k

/-- Of two parts the last one counts. -/
theorem last?_append (before after : List (String × α)) (k : String) :
    last? (before ++ after) k = (last? after k).or (last? before k) := by
  rw [last?, List.reverse_append, lookup?_append]
  rfl

/-- The first entry counts if no later one does. -/
theorem last?_cons (e : String × α) (after : List (String × α)) (k : String) :
    last? (e :: after) k = (last? after k).or (if e.1 = k then some e.2 else none) :=
  last?_append [e] after k

/-- Among distinct keys, the last value is the only one. -/
theorem last?_of_nodup (hnodup : (keys entries).Nodup) (k : String) :
    last? entries k = lookup? entries k := by
  have hreverse : (keys entries.reverse).Nodup := by
    rw [keys, List.map_reverse, List.nodup_reverse]
    exact hnodup
  ext v
  rw [last?, lookup?_eq_some_iff hreverse, lookup?_eq_some_iff hnodup, List.mem_reverse]

/-- Changing the values changes the last one of a key. -/
theorem last?_map (f : α → β) (entries : List (String × α)) (k : String) :
    last? (entries.map fun e => (e.1, f e.2)) k = (last? entries k).map f := by
  rw [last?, ← List.map_reverse, lookup?_map, last?]

/-- **The last value counts.**  After putting pairs, a key has the value of its
last pair, or the one it had before. -/
theorem lookup?_putAll (entries pairs : List (String × α)) (k : String) :
    lookup? (putAll entries pairs) k = (last? pairs k).or (lookup? entries k) := by
  induction pairs generalizing entries with
  | nil => rfl
  | cons e pairs ih =>
      have hput : lookup? (put entries e.1 e.2) k =
          (if e.1 = k then some e.2 else none).or (lookup? entries k) := by
        by_cases h : e.1 = k
        · subst h
          simp [lookup?_put_self]
        · simp [h, lookup?_put_of_ne entries e.2 (Ne.symm h)]
      rw [last?_cons, Option.or_assoc, ← hput]
      exact ih _

/-- Every entry was there or is one of the pairs. -/
theorem mem_putAll {pairs : List (String × α)} {e : String × α} (h : e ∈ putAll entries pairs) :
    e ∈ entries ∨ e ∈ pairs := by
  induction pairs generalizing entries with
  | nil => exact Or.inl h
  | cons p pairs ih =>
      rcases ih h with h | h
      · rcases mem_put h with h | rfl
        · exact Or.inl h
        · exact Or.inr List.mem_cons_self
      · exact Or.inr (List.mem_cons_of_mem p h)

end Keyed

/-! ## Maps -/

namespace OrderedMap

variable {α β : Type} {m m' : OrderedMap α} {k : String} {v : α}

theorem eq_of_entries_eq (h : m.entries = m'.entries) : m = m' := by
  cases m
  cases m'
  cases h
  rfl

/-- An entry is what its key is looked up as. -/
theorem mem_entries_iff : (k, v) ∈ m.entries ↔ m.get? k = some v :=
  (Keyed.lookup?_eq_some_iff m.nodup).symm

/-- A key has a value exactly if it is one of the keys. -/
theorem get?_eq_none_iff : m.get? k = none ↔ k ∉ m.keys :=
  Keyed.lookup?_eq_none_iff

/-- A map is its keys, each with what is looked up. -/
theorem entries_eq_map_keys (m : OrderedMap α) (d : α) :
    m.entries = m.keys.map fun k => (k, (m.get? k).getD d) := by
  have hlookup : ∀ e ∈ m.entries, e = (e.1, (m.get? e.1).getD d) := by
    intro e he
    rw [mem_entries_iff.mp he]
    rfl
  calc m.entries
      = m.entries.map id := (List.map_id m.entries).symm
    _ = m.entries.map fun e => (e.1, (m.get? e.1).getD d) := List.map_congr_left hlookup
    _ = m.keys.map fun k => (k, (m.get? k).getD d) := by
        rw [keys, Keyed.keys, List.map_map]
        rfl

/-- Keys that are taken by their values are the keys that pass a test of what is looked up. -/
theorem filterMap_entries_eq_filter {take : String × α → Option String} {p : String → Bool}
    (h : ∀ k v, m.get? k = some v → take (k, v) = if p k then some k else none) :
    m.entries.filterMap take = m.keys.filter p := by
  have htake : m.entries.filterMap take =
      m.entries.filterMap fun e => if p e.1 then some e.1 else none := by
    apply List.filterMap_congr
    intro e he
    exact h e.1 e.2 (mem_entries_iff.mp he)
  rw [htake, keys, Keyed.keys, ← List.filterMap_eq_filter, List.filterMap_map]
  rfl

/-- A key keeps its place, and a new one is put last. -/
theorem keys_insert (m : OrderedMap α) (k : String) (v : α) :
    (m.insert k v).keys = if k ∈ m.keys then m.keys else m.keys ++ [k] :=
  Keyed.keys_put m.entries k v

/-- A new key is put last with its value. -/
theorem entries_insert_of_not_mem (h : k ∉ m.keys) (v : α) :
    (m.insert k v).entries = m.entries ++ [(k, v)] :=
  Keyed.put_of_not_mem h v

/-- Inserting changes the value of one key. -/
theorem get?_insert (m : OrderedMap α) (j : String) (v : α) (k : String) :
    (m.insert j v).get? k = if k = j then some v else m.get? k := by
  unfold get? insert
  by_cases h : k = j
  · rw [if_pos h, h, Keyed.lookup?_put_self]
  · rw [if_neg h, Keyed.lookup?_put_of_ne m.entries v h]

/-- Changing the values keeps the keys. -/
theorem keys_mapValues (f : α → β) (m : OrderedMap α) : (m.mapValues f).keys = m.keys := by
  unfold keys mapValues Keyed.keys
  rw [List.map_map]
  rfl

/-- Changing the values changes what a key has. -/
theorem get?_mapValues (f : α → β) (m : OrderedMap α) (k : String) :
    (m.mapValues f).get? k = (m.get? k).map f :=
  Keyed.lookup?_map f m.entries k

end OrderedMap

end DefectCatalog
