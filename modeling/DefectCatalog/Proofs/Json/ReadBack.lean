import DefectCatalog.Proofs.Json.Readable
import DefectCatalog.Proofs.Json.Tokens

/-!
# Written values read back

The reader takes the tokens of a value to the value itself, but for one thing: of
several members with one name it keeps the last value, in the place of the first
(`Value.settled`).  It answers nothing for a value whose containers nest too deep
(`run?_tokens`).

The text of a value gives its tokens except for numbers that are read as other
numbers (`Value.reread`).  So a value that was read is read back unchanged exactly
if all its numbers come back (`Value.Exact`).
-/

namespace DefectCatalog

namespace Json

mutual

/-- How deep the containers of a value nest. -/
def Value.depth : Value → Nat
  | .array items => depthOfItems items + 1
  | .object members => depthOfMembers members + 1
  | .null | .bool _ | .number _ | .string _ => 0

/-- How deep the containers of some values nest. -/
def depthOfItems : List Value → Nat
  | [] => 0
  | v :: rest => max v.depth (depthOfItems rest)

/-- How deep the containers of some members nest. -/
def depthOfMembers : List (String × Value) → Nat
  | [] => 0
  | (_, v) :: rest => max v.depth (depthOfMembers rest)

end

mutual

/-- The value in which of several members with one name the last one counts. -/
def Value.settled : Value → Value
  | .array items => .array (settledItems items)
  | .object members => .object (Keyed.putAll [] (settledMembers members))
  | .null => .null
  | .bool b => .bool b
  | .number n => .number n
  | .string s => .string s

/-- Items one by one. -/
def settledItems : List Value → List Value
  | [] => []
  | v :: rest => v.settled :: settledItems rest

/-- The values of members one by one. -/
def settledMembers : List (String × Value) → List (String × Value)
  | [] => []
  | (k, v) :: rest => (k, v.settled) :: settledMembers rest

end

/-- The items of an array are settled one by one. -/
theorem settledItems_eq_map (items : List Value) :
    settledItems items = items.map Value.settled := by
  induction items with
  | nil => rfl
  | cons v rest ih => rw [settledItems, ih, List.map_cons]

/-- The members of an object are settled one by one. -/
theorem settledMembers_eq_map (members : List (String × Value)) :
    settledMembers members = members.map fun m => (m.1, m.2.settled) := by
  induction members with
  | nil => rfl
  | cons m rest ih => rw [settledMembers, ih, List.map_cons]

/-- Items nest so deep if each does. -/
theorem depthOfItems_le_iff {items : List Value} {n : Nat} :
    depthOfItems items ≤ n ↔ ∀ v ∈ items, v.depth ≤ n := by
  induction items with
  | nil => simp [depthOfItems]
  | cons v rest ih => rw [depthOfItems, Nat.max_le, ih, List.forall_mem_cons]

/-- Members nest so deep if the value of each does. -/
theorem depthOfMembers_le_iff {members : List (String × Value)} {n : Nat} :
    depthOfMembers members ≤ n ↔ ∀ m ∈ members, m.2.depth ≤ n := by
  induction members with
  | nil => simp [depthOfMembers]
  | cons m rest ih => rw [depthOfMembers, Nat.max_le, ih, List.forall_mem_cons]

/-- An array nests one deeper than its items. -/
theorem Value.depth_array_le_iff {items : List Value} {n : Nat} :
    (Value.array items).depth ≤ n + 1 ↔ ∀ v ∈ items, v.depth ≤ n := by
  rw [depth, Nat.add_le_add_iff_right, depthOfItems_le_iff]

/-- An object nests one deeper than its members. -/
theorem Value.depth_object_le_iff {members : List (String × Value)} {n : Nat} :
    (Value.object members).depth ≤ n + 1 ↔ ∀ m ∈ members, m.2.depth ≤ n := by
  rw [depth, Nat.add_le_add_iff_right, depthOfMembers_le_iff]

/-- A value whose names are distinct settles to itself. -/
theorem Value.Distinct.settled_eq {v : Value} (h : v.Distinct) : v.settled = v := by
  induction h with
  | null | bool | number | string => rfl
  | @array items _ ih =>
      rw [settled, settledItems_eq_map, List.map_congr_left ih, List.map_id']
  | @object members hkeys _ ih =>
      have hmember : ∀ m ∈ members, (m.1, m.2.settled) = m := fun m hm => by rw [ih m hm]
      have hput : Keyed.putAll [] members = [] ++ members := Keyed.putAll_of_nodup hkeys
      rw [settled, settledMembers_eq_map, List.map_congr_left hmember, List.map_id', hput,
        List.nil_append]

/-! ## Numbers that come back -/

/-- Every number inside a value is read back from its text. -/
inductive Value.Exact : Value → Prop
  | null : Exact .null
  | bool (b : Bool) : Exact (.bool b)
  | number {n : Number} (comes_back : number? n.text.toList = some (n, [])) : Exact (.number n)
  | string (s : String) : Exact (.string s)
  | array {items : List Value} (items_exact : ∀ v ∈ items, v.Exact) : Exact (.array items)
  | object {members : List (String × Value)} (members_exact : ∀ m ∈ members, m.2.Exact) :
      Exact (.object members)

/-- An array is reread item by item. -/
theorem Value.reread_array (items : List Value) :
    (Value.array items).reread = .array (items.map Value.reread) := by
  rw [reread, rereadItems_eq_map]

/-- An object is reread member by member, under the same keys. -/
theorem Value.reread_object (members : List (String × Value)) :
    (Value.object members).reread = .object (members.map fun m => (m.1, m.2.reread)) := by
  rw [reread, rereadMembers_eq_map]

/-- An exact value is what it is reread as. -/
theorem Value.Exact.reread_eq {v : Value} (h : v.Exact) : v.reread = v := by
  induction h with
  | null | bool | string => rfl
  | @number n hread =>
      rw [reread, Number.reread, hread]
      rfl
  | array _ ih => rw [reread_array, List.map_congr_left ih, List.map_id']
  | @object members _ ih =>
      have hmember : ∀ m ∈ members, (m.1, m.2.reread) = m := fun m hm => by rw [ih m hm]
      rw [reread_object, List.map_congr_left hmember, List.map_id']

/-- **The values that stay as they are** are those whose numbers come back. -/
theorem Value.Sound.reread_eq_iff {v : Value} (hv : v.Sound) : v.reread = v ↔ v.Exact := by
  refine ⟨fun h => ?_, Exact.reread_eq⟩
  induction hv with
  | null => exact .null
  | bool b => exact .bool b
  | string s => exact .string s
  | @number n hfits =>
      have hread := Number.number?_eq_reread hfits
      rw [reread] at h
      rw [Value.number.inj h] at hread
      exact .number hread
  | @array items _ ih =>
      rw [reread_array, Value.array.injEq] at h
      refine .array fun v hv => ih v hv ?_
      exact List.map_inj_left.mp (h.trans (List.map_id items).symm) v hv
  | @object members _ ih =>
      rw [reread_object, Value.object.injEq] at h
      refine .object fun m hm => ih m hm ?_
      exact congrArg Prod.snd (List.map_inj_left.mp (h.trans (List.map_id members).symm) m hm)

mutual

/-- Numbers do not nest. -/
theorem Value.depth_reread (v : Value) : v.reread.depth = v.depth := by
  cases v with
  | null | bool | number | string => rfl
  | array items => rw [Value.reread, Value.depth, Value.depth, depth_rereadItems items]
  | object members => rw [Value.reread, Value.depth, Value.depth, depth_rereadMembers members]

/-- Rereading does not change how deep items nest. -/
theorem depth_rereadItems (items : List Value) :
    depthOfItems (rereadItems items) = depthOfItems items := by
  cases items with
  | nil => rfl
  | cons v rest =>
      rw [rereadItems, depthOfItems, depthOfItems, v.depth_reread, depth_rereadItems rest]

/-- Rereading does not change how deep members nest. -/
theorem depth_rereadMembers (members : List (String × Value)) :
    depthOfMembers (rereadMembers members) = depthOfMembers members := by
  cases members with
  | nil => rfl
  | cons m rest =>
      rw [rereadMembers, depthOfMembers, depthOfMembers, m.2.depth_reread, depth_rereadMembers rest]

end

/-- A number that is read back fits. -/
theorem Number.Fits.reread {n : Number} (h : n.Fits) : n.reread.Fits :=
  fits_of_number? (Number.number?_eq_reread h)

/-- Rereading keeps the keys. -/
theorem keys_reread (members : List (String × Value)) :
    Keyed.keys (members.map fun m => (m.1, m.2.reread)) = Keyed.keys members := by
  rw [Keyed.keys, List.map_map]
  rfl

/-- Rereading puts no key twice. -/
theorem Value.Distinct.reread {v : Value} (h : v.Distinct) : v.reread.Distinct := by
  induction h with
  | null => exact .null
  | bool b => exact .bool b
  | number n => exact .number n.reread
  | string s => exact .string s
  | array _ ih =>
      rw [reread_array]
      exact .array (List.forall_mem_map.mpr ih)
  | object hkeys _ ih =>
      rw [reread_object]
      exact .object ((keys_reread _).symm ▸ hkeys) (List.forall_mem_map.mpr ih)

/-- A value that is read from the text of a readable value is readable. -/
theorem Value.Readable.reread {n : Nat} {v : Value} (h : v.Readable n) : v.reread.Readable n := by
  induction h with
  | null => exact .null
  | bool b => exact .bool b
  | number fits => exact .number fits.reread
  | string s => exact .string s
  | array _ ih =>
      rw [reread_array]
      exact .array (List.forall_mem_map.mpr ih)
  | object hkeys _ ih =>
      rw [reread_object]
      exact .object ((keys_reread _).symm ▸ hkeys) (List.forall_mem_map.mpr ih)

namespace Value.Readable

variable {n : Nat} {v : Value}

/-- The numbers of a readable value can be read. -/
theorem sound (h : v.Readable n) : v.Sound := by
  induction h with
  | null => exact .null
  | bool b => exact .bool b
  | number fits => exact .number fits
  | string s => exact .string s
  | array _ ih => exact .array ih
  | object _ _ ih => exact .object ih

/-- A readable value nests no deeper than it can be read. -/
theorem depth_le (h : v.Readable n) : v.depth ≤ n := by
  induction h with
  | null | bool | number | string => exact Nat.zero_le _
  | array _ ih => exact depth_array_le_iff.mpr ih
  | object _ _ ih => exact depth_object_le_iff.mpr ih

end Value.Readable

/-! ## The machine -/

theorem ReaderState.run?_cons (s : ReaderState) (t : Token) (ts : List Token) :
    s.run? (t :: ts) = (s.step? t).bind fun next => next.run? ts := rfl

/-- Where an array may end at once, a value is read as its first item. -/
theorem run?_firstItem (v : Value) (outer : List Frame) (ts : List Token) :
    (ReaderState.firstItem outer).run? (v.tokens ++ ts) =
      (ReaderState.value (.array [] :: outer)).run? (v.tokens ++ ts) := by
  rcases v with _ | _ | _ | _ | (_ | ⟨_, _⟩) | (_ | ⟨⟨_, _⟩, _⟩) <;> rfl

/-- An array is read like further items of an empty one, if there is room for it. -/
theorem run?_arrayTokens (items : List Value) (outer : List Frame) (ts : List Token) :
    (ReaderState.value outer).run? ((Value.array items).tokens ++ ts) =
      if outer.length < maxDepth then
        (ReaderState.afterItem [] outer).run? (itemTokens items ++ .closeArray :: ts)
      else none := by
  have hopen (rest : List Token) : (ReaderState.value outer).run? (.openArray :: rest) =
      if outer.length < maxDepth then (ReaderState.firstItem outer).run? rest else none := by
    rw [ReaderState.run?_cons, ReaderState.step?, startValue]
    split <;> rfl
  cases items with
  | nil => exact hopen (.closeArray :: ts)
  | cons v rest =>
      rw [Value.tokens, List.cons_append, hopen, List.append_assoc, run?_firstItem, itemTokens,
        List.cons_append, List.cons_append, List.append_assoc, List.append_assoc]
      rfl

/-- An object is read like further members of an empty one, if there is room for it. -/
theorem run?_objectTokens (members : List (String × Value)) (outer : List Frame) (ts : List Token) :
    (ReaderState.value outer).run? ((Value.object members).tokens ++ ts) =
      if outer.length < maxDepth then
        (ReaderState.afterMember [] outer).run? (memberTokens members ++ .closeObject :: ts)
      else none := by
  have hopen (rest : List Token) : (ReaderState.value outer).run? (.openObject :: rest) =
      if outer.length < maxDepth then (ReaderState.key [] true outer).run? rest else none := by
    rw [ReaderState.run?_cons, ReaderState.step?, startValue]
    split <;> rfl
  cases members with
  | nil => exact hopen (.closeObject :: ts)
  | cons m rest =>
      simp only [Value.tokens, memberTokens, List.cons_append, List.append_assoc, hopen]
      rfl

/-- Two values have room if the deeper one has. -/
theorem ite_max {α : Type} (n a b : Nat) (x : Option α) :
    (if n + a ≤ maxDepth then if n + b ≤ maxDepth then x else none else none) =
      if n + max a b ≤ maxDepth then x else none := by
  by_cases ha : n + a ≤ maxDepth
  · rw [if_pos ha]
    by_cases hb : n + b ≤ maxDepth
    · rw [if_pos hb, if_pos (by omega)]
    · rw [if_neg hb, if_neg (by omega)]
  · rw [if_neg ha, if_neg (by omega)]

mutual

/-- **The reader takes the tokens of a value to the value.**  It stops if the
containers nest too deep. -/
theorem run?_tokens (v : Value) {outer : List Frame} (houter : outer.length ≤ maxDepth)
    (ts : List Token) : (ReaderState.value outer).run? (v.tokens ++ ts) =
      if outer.length + v.depth ≤ maxDepth then (complete v.settled outer).run? ts else none := by
  cases v with
  | null | bool | number | string => exact (if_pos houter).symm
  | array items =>
      rw [run?_arrayTokens, Value.depth, Value.settled]
      by_cases hroom : outer.length < maxDepth
      · rw [if_pos hroom, run?_itemTokens items hroom [], List.nil_append, Nat.add_right_comm]
        rfl
      · rw [if_neg hroom, if_neg (by omega)]
  | object members =>
      rw [run?_objectTokens, Value.depth, Value.settled]
      by_cases hroom : outer.length < maxDepth
      · rw [if_pos hroom, run?_memberTokens members hroom [], Nat.add_right_comm]
        rfl
      · rw [if_neg hroom, if_neg (by omega)]

/-- Further items are put behind those that were read, if there is room for the deepest. -/
theorem run?_itemTokens (items : List Value) {outer : List Frame} (houter : outer.length < maxDepth)
    (before : List Value) (ts : List Token) :
    (ReaderState.afterItem before outer).run? (itemTokens items ++ ts) =
      if outer.length + 1 + depthOfItems items ≤ maxDepth then
        (ReaderState.afterItem (before ++ settledItems items) outer).run? ts
      else none := by
  cases items with
  | nil =>
      rw [settledItems, List.append_nil]
      exact (if_pos houter).symm
  | cons v rest =>
      have hframe : (Frame.array before :: outer).length ≤ maxDepth := houter
      have hv := run?_tokens v hframe (itemTokens rest ++ ts)
      have hrest := run?_itemTokens rest houter (before ++ [v.settled]) ts
      rw [List.append_assoc] at hrest
      rw [complete, hrest] at hv
      rw [depthOfItems, ← ite_max, settledItems, itemTokens, List.cons_append, List.cons_append,
        List.append_assoc]
      exact hv

/-- Further members are put in by their keys, if there is room for the deepest. -/
theorem run?_memberTokens (members : List (String × Value)) {outer : List Frame}
    (houter : outer.length < maxDepth) (before : List (String × Value)) (ts : List Token) :
    (ReaderState.afterMember before outer).run? (memberTokens members ++ ts) =
      if outer.length + 1 + depthOfMembers members ≤ maxDepth then
        (ReaderState.afterMember (Keyed.putAll before (settledMembers members)) outer).run? ts
      else none := by
  cases members with
  | nil => exact (if_pos houter).symm
  | cons m rest =>
      obtain ⟨k, v⟩ := m
      have hframe : (Frame.object before k :: outer).length ≤ maxDepth := houter
      have hv := run?_tokens v hframe (memberTokens rest ++ ts)
      rw [complete, run?_memberTokens rest houter (Keyed.put before k v.settled) ts] at hv
      rw [depthOfMembers, ← ite_max, settledMembers, memberTokens]
      simp only [List.cons_append, List.append_assoc]
      exact hv

end

/-- **Reading the text of a value.**  It gives the value with the numbers that are
read, and with one member of each name, unless the containers nest too deep. -/
theorem read?_of_spells {v : Value} {text : String} (h : Spells text.toList v.reread.tokens) :
    read? text = if v.depth ≤ maxDepth then some v.reread.settled else none := by
  have hroot : ([] : List Frame).length ≤ maxDepth := Nat.zero_le maxDepth
  have hrun := run?_tokens v.reread hroot []
  rw [List.append_nil, List.length_nil, Nat.zero_add, v.depth_reread] at hrun
  rw [read?, h.lex?_eq, Option.bind_eq_bind, Option.bind_some, hrun]
  split <;> rfl

/-- **The compact text of a sound value is read back**, unless it nests too deep. -/
theorem read?_compact {v : Value} (hv : v.Sound) :
    read? v.compact = if v.depth ≤ maxDepth then some v.reread.settled else none :=
  read?_of_spells (spells_compact hv)

/-- **The text of a sound value on several lines is read back**, unless it nests too deep. -/
theorem read?_pretty {v : Value} (hv : v.Sound) :
    read? v.pretty = if v.depth ≤ maxDepth then some v.reread.settled else none :=
  read?_of_spells (spells_prettyAt hv 0)

/-- **The text of a value that was read is always read**, as the value with the
numbers that are read. -/
theorem Value.Readable.read?_pretty {v : Value} (h : v.Readable maxDepth) :
    read? v.pretty = some v.reread := by
  rw [Json.read?_pretty h.sound, if_pos h.depth_le, h.distinct.reread.settled_eq]

/-- A readable value is read back with its numbers reread. -/
theorem Value.Readable.read?_compact {v : Value} (h : v.Readable maxDepth) :
    read? v.compact = some v.reread := by
  rw [Json.read?_compact h.sound, if_pos h.depth_le, h.distinct.reread.settled_eq]

end Json

end DefectCatalog
