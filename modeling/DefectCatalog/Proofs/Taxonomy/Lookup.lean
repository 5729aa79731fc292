import DefectCatalog.Proofs.OrderedMap.Lookup
import DefectCatalog.Taxonomy

/-!
# Lookups and the entries of a taxonomy

The lookups of a taxonomy descend its levels, while its entries are one flat
list.  Each lookup is the search for the first entry that fits.  For a lookup
in one category or group this rests on their names being distinct.
-/

namespace DefectCatalog.Taxonomy

open Keyed

variable (t : Taxonomy) (category group key : String)

/-- The entries of a group. -/
def labelEntries (category group : String) (labels : OrderedMap Label) : List Entry :=
  labels.entries.map fun e => ⟨category, group, e.1, e.2⟩

/-- The entries of a category. -/
def groupEntries (category : String) (groups : OrderedMap (OrderedMap Label)) : List Entry :=
  groups.entries.flatMap fun e => labelEntries category e.1 e.2

/-- The entries are those of the categories, one after the other. -/
theorem entries_eq : t.entries = t.categories.entries.flatMap fun e => groupEntries e.1 e.2 :=
  rfl

variable {category group key} in
/-- The entries of a group are in that group. -/
theorem group_of_mem_labelEntries {labels : OrderedMap Label} {e : Entry}
    (h : e ∈ labelEntries category group labels) : e.group = group := by
  obtain ⟨l, -, rfl⟩ := List.mem_map.mp h
  rfl

variable {category group key} in
/-- The entries of a category are in that category. -/
theorem category_of_mem_groupEntries {groups : OrderedMap (OrderedMap Label)} {e : Entry}
    (h : e ∈ groupEntries category groups) : e.category = category := by
  obtain ⟨g, -, h⟩ := List.mem_flatMap.mp h
  obtain ⟨l, -, rfl⟩ := List.mem_map.mp h
  rfl

/-- The first entry of a group with a key has the label that the group has for it. -/
theorem find?_labelEntries (labels : OrderedMap Label) :
    ((labelEntries category group labels).find? fun e => e.key = key).map Entry.label =
      labels.get? key := by
  rw [labelEntries, List.find?_map, Option.map_map, OrderedMap.get?, lookup?_eq_find?]
  rfl

/-- The first entry of a category with a key has the first label of its groups. -/
theorem find?_groupEntries (groups : OrderedMap (OrderedMap Label)) :
    ((groupEntries category groups).find? fun e => e.key = key).map Entry.label =
      findInGroups groups key := by
  rw [groupEntries, List.find?_flatMap, List.map_findSome?, findInGroups, OrderedMap.values,
    List.findSome?_map]
  congr 1
  funext e
  exact find?_labelEntries category e.1 key e.2

/-- **A label is that of the first entry with its key.** -/
theorem find?_eq : t.find? key = (t.entries.find? fun e => e.key = key).map Entry.label := by
  rw [entries_eq, List.find?_flatMap, List.map_findSome?, find?, OrderedMap.values,
    List.findSome?_map]
  congr 1
  funext e
  exact (find?_groupEntries e.1 key e.2).symm

/-- The entries of one category are those of its groups. -/
theorem filter_category : (t.entries.filter fun e => e.category = category) =
    ((t.categories.get? category).map (groupEntries category)).getD [] :=
  filter_flatMap_of_nodup t.categories.nodup category groupEntries
    fun _ _ _ => category_of_mem_groupEntries

/-- The entries of one group of a category are those of its keys. -/
theorem filter_group (groups : OrderedMap (OrderedMap Label)) :
    ((groupEntries category groups).filter fun e => e.group = group) =
      ((groups.get? group).map (labelEntries category group)).getD [] :=
  filter_flatMap_of_nodup groups.nodup group (labelEntries category) fun _ _ _ =>
    group_of_mem_labelEntries

/-- **A label within a category** is that of the first of its entries with the key. -/
theorem labelWithin?_eq : t.labelWithin? category key =
    ((t.entries.filter fun e => e.category = category).find? fun e => e.key = key).map
      fun e => e.label.display := by
  rw [filter_category, labelWithin?]
  cases t.categories.get? category with
  | none => rfl
  | some groups =>
      have hfind := find?_groupEntries category key groups
      simp only [Option.bind_eq_bind, Option.bind_some, Option.map_some, Option.getD_some,
        ← hfind, Option.bind_map]
      cases (groupEntries category groups).find? fun e => e.key = key <;> rfl

/-- **The text for a repair tool** is that of the first entry of its group with the key. -/
theorem toolLabel?_eq : t.toolLabel? key =
    (((t.entries.filter fun e => e.category = runtimeInformation).filter fun e =>
      e.group = automaticRepair).find? fun e => e.key = key).map fun e => e.label.display := by
  rw [filter_category, toolLabel?]
  cases t.categories.get? runtimeInformation with
  | none => rfl
  | some groups =>
      simp only [Option.bind_eq_bind, Option.bind_some, Option.map_some, Option.getD_some,
        filter_group]
      cases groups.get? automaticRepair with
      | none => rfl
      | some labels =>
          have hfind := find?_labelEntries runtimeInformation automaticRepair key labels
          simp only [Option.bind_some, Option.map_some, Option.getD_some, ← hfind, Option.bind_map]
          cases (labelEntries runtimeInformation automaticRepair labels).find?
            fun e => e.key = key <;> rfl

end DefectCatalog.Taxonomy
