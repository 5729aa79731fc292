/-!
# Maps in order of insertion

A map from strings that remembers the order in which its keys first came.  On
plain lists of pairs the operations are `lookup?` and `put`; `OrderedMap` adds
the invariant that no key occurs twice, which `put` keeps because it replaces
the value of a known key in place (`keys_put`).
-/

namespace DefectCatalog

namespace Keyed

variable {α : Type}

/-- The keys of a list of pairs, in order. -/
def keys (entries : List (String × α)) : List String :=
  entries.map Prod.fst

/-- The value of the first pair with the key `k`. -/
def lookup? : List (String × α) → String → Option α
  | [], _ => none
  | e :: rest, k => if e.1 = k then some e.2 else lookup? rest k

/-- Sets the value of `k`: in place if the key is known, else at the end. -/
def put : List (String × α) → String → α → List (String × α)
  | [], k, v => [(k, v)]
  | e :: rest, k, v => if e.1 = k then (k, v) :: rest else e :: put rest k v

/-- Setting a value keeps the keys in order and adds an unknown one at the end. -/
theorem keys_put (entries : List (String × α)) (k : String) (v : α) :
    keys (put entries k v) = if k ∈ keys entries then keys entries else keys entries ++ [k] := by
  induction entries with
  | nil => simp [put, keys]
  | cons e rest ih =>
    simp only [keys] at ih
    by_cases h : e.1 = k
    · simp [put, keys, h]
    · have h' : ¬k = e.1 := fun heq => h heq.symm
      by_cases hk : k ∈ rest.map Prod.fst <;> simp [put, keys, h, h', ih, hk]

/-- The value just set is found. -/
theorem lookup?_put_self (entries : List (String × α)) (k : String) (v : α) :
    lookup? (put entries k v) k = some v := by
  induction entries with
  | nil => simp [put, lookup?]
  | cons e rest ih =>
    by_cases h : e.1 = k <;> simp [put, lookup?, h, ih]

/-- Setting one key leaves the others alone. -/
theorem lookup?_put_of_ne (entries : List (String × α)) {k j : String} (v : α) (h : j ≠ k) :
    lookup? (put entries k v) j = lookup? entries j := by
  induction entries with
  | nil => simp [put, lookup?, Ne.symm h]
  | cons e rest ih =>
    by_cases he : e.1 = k
    · simp [put, lookup?, he, Ne.symm h]
    · simp [put, lookup?, he, ih]

end Keyed

/-- A map from strings in order of insertion. -/
structure OrderedMap (α : Type) where
  entries : List (String × α)
  nodup : (Keyed.keys entries).Nodup

namespace OrderedMap

variable {α : Type}

/-- The map without keys. -/
def empty : OrderedMap α :=
  ⟨[], List.nodup_nil⟩

instance : Inhabited (OrderedMap α) := ⟨empty⟩

/-- The keys in order of insertion. -/
def keys (m : OrderedMap α) : List String :=
  Keyed.keys m.entries

/-- The values in order of insertion. -/
def values (m : OrderedMap α) : List α :=
  m.entries.map Prod.snd

/-- The value of a key. -/
def get? (m : OrderedMap α) (k : String) : Option α :=
  Keyed.lookup? m.entries k

/-- The number of keys. -/
def size (m : OrderedMap α) : Nat :=
  m.entries.length

/-- Sets the value of a key; a known key keeps its place. -/
def insert (m : OrderedMap α) (k : String) (v : α) : OrderedMap α where
  entries := Keyed.put m.entries k v
  nodup := by
    have h := m.nodup
    rw [Keyed.keys_put]
    split
    · exact h
    · next hk =>
      rw [List.nodup_append]
      refine ⟨h, by simp, ?_⟩
      intro a ha b hb
      simp only [List.mem_singleton] at hb
      subst hb
      exact fun heq => hk (heq ▸ ha)

/-- Inserts the pairs in order. -/
def ofList (entries : List (String × α)) : OrderedMap α :=
  entries.foldl (fun m e => m.insert e.1 e.2) empty

/-- Applies a function to every value. -/
def mapValues {β : Type} (f : α → β) (m : OrderedMap α) : OrderedMap β where
  entries := m.entries.map fun e => (e.1, f e.2)
  nodup := by simpa [Keyed.keys, Function.comp_def] using m.nodup

end OrderedMap

end DefectCatalog
