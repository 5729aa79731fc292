import DefectCatalog.Proofs.Taxonomy.Places
import DefectCatalog.Proofs.Taxonomy.Reload
import Mathlib.Data.Finset.Card

/-!
# Taxonomies made by insertions

A taxonomy that is made by insertions lists each place that was named once, with
the label that it was given last.  A place stays where it was named first: the
categories stand in the order of their first insertion, in each of them its
groups, and in each group its keys (`places_insertAll`), however insertions
into different categories and groups are interleaved.  `collects_insertAll` puts
this together with the text that such a taxonomy is saved as.
-/

namespace DefectCatalog

namespace Taxonomy

/-- Inserts entries one after the other into the empty taxonomy. -/
def insertAll (es : List Entry) : Taxonomy :=
  es.foldl (fun t e => t.insert e.category e.group e.key e.label) empty

/-- The places that are named, in the order of their first insertion on every level. -/
def placesInOrder (es : List Entry) : List (String × String × String) :=
  (es.map Entry.category).eraseDups.flatMap fun category =>
    let inCategory := es.filter fun e => e.category = category
    (inCategory.map Entry.group).eraseDups.flatMap fun group =>
      let inGroup := inCategory.filter fun e => e.group = group
      (inGroup.map Entry.key).eraseDups.map fun key => (category, group, key)

/-- An entry is the last one that is inserted at its place. -/
def IsLast (es : List Entry) (e : Entry) : Prop :=
  ∃ before after, es = before ++ e :: after ∧ ∀ d ∈ after, d.place ≠ e.place

/-- What a taxonomy lists after insertions, and what its text gives back. -/
structure Collects (t : Taxonomy) (es : List Entry) : Prop where
  /-- The places stand in the order of their first insertion. -/
  places_eq : t.entries.map Entry.place = placesInOrder es
  /-- They are the places that were named. -/
  mem_places_iff : ∀ p, p ∈ t.entries.map Entry.place ↔ p ∈ es.map Entry.place
  /-- No place is listed twice. -/
  places_nodup : (t.entries.map Entry.place).Nodup
  /-- Each place has the label that was inserted last for it. -/
  mem_entries_iff : ∀ e, e ∈ t.entries ↔ IsLast es e
  /-- The size is the number of different places. -/
  size_eq : t.size = (es.map Entry.place).toFinset.card
  /-- The text without blanks gives the same taxonomy back, in its order and with every long
  name as it is, absent or empty. -/
  compact : readTaxonomy t.toJson.compact = .ok t
  /-- So does the text over several lines. -/
  pretty : readTaxonomy t.toJson.pretty = .ok t

/-- A further entry is inserted last. -/
theorem insertAll_concat (es : List Entry) (d : Entry) :
    insertAll (es ++ [d]) = (insertAll es).insert d.category d.group d.key d.label := by
  simp only [insertAll, List.foldl_append, List.foldl_cons, List.foldl_nil]

/-! ## The order of the places -/

/-- Sets the label of an entry among the labels of its group. -/
def Entry.addToGroup (e : Entry) (labels : OrderedMap Label) : OrderedMap Label :=
  labels.update {} e.key fun _ => e.label

/-- Sets the label of an entry among the groups of its category. -/
def Entry.addToCategory (e : Entry) (groups : OrderedMap (OrderedMap Label)) :
    OrderedMap (OrderedMap Label) :=
  groups.update .empty e.group e.addToGroup

/-- The labels that insertions into one group leave. -/
def groupOf (es : List Entry) : OrderedMap Label :=
  .updateAll {} Entry.key (fun e _ => e.label) es

/-- The groups that insertions into one category leave. -/
def categoryOf (es : List Entry) : OrderedMap (OrderedMap Label) :=
  .updateAll .empty Entry.group Entry.addToGroup es

/-- The categories are what the entries make of them one after the other. -/
theorem categories_insertAll (es : List Entry) :
    (insertAll es).categories = .updateAll .empty Entry.category Entry.addToCategory es :=
  (List.foldl_hom categories fun _ _ => rfl).symm

/-- The places in a group are its keys, each once in the order of insertion. -/
theorem places_groupOf (es : List Entry) (category group : String) :
    (labelEntries category group (groupOf es)).map Entry.place =
      (es.map Entry.key).eraseDups.map fun key => (category, group, key) := by
  rw [labelEntries, groupOf, OrderedMap.entries_updateAll, List.map_map, List.map_map]
  rfl

/-- The places in a category are those of its groups, in the order of insertion. -/
theorem places_categoryOf (es : List Entry) (category : String) :
    (groupEntries category (categoryOf es)).map Entry.place =
      (es.map Entry.group).eraseDups.flatMap fun group =>
        ((es.filter fun e => e.group = group).map Entry.key).eraseDups.map fun key =>
          (category, group, key) := by
  rw [groupEntries, categoryOf, OrderedMap.entries_updateAll, List.flatMap_map, List.map_flatMap]
  congr 1
  funext group
  exact places_groupOf _ category group

/-- **Places stand in the order of their first insertion**, on every level. -/
theorem places_insertAll (es : List Entry) :
    (insertAll es).entries.map Entry.place = placesInOrder es := by
  rw [entries_eq, categories_insertAll, OrderedMap.entries_updateAll, List.flatMap_map,
    List.map_flatMap]
  congr 1
  funext category
  exact places_categoryOf _ category

/-- The places in order are the places of the entries. -/
theorem mem_placesInOrder {es : List Entry} {p : String × String × String} :
    p ∈ placesInOrder es ↔ p ∈ es.map Entry.place := by
  simp only [placesInOrder, List.mem_flatMap, List.mem_map, List.mem_eraseDups, List.mem_filter,
    decide_eq_true_eq]
  constructor
  · intro h
    obtain ⟨category, -, group, -, key, ⟨e, ⟨⟨he, rfl⟩, rfl⟩, rfl⟩, rfl⟩ := h
    exact ⟨e, he, rfl⟩
  · intro h
    obtain ⟨e, he, rfl⟩ := h
    exact ⟨e.category, ⟨e, he, rfl⟩, e.group, ⟨e, ⟨he, rfl⟩, rfl⟩, e.key,
      ⟨e, ⟨⟨he, rfl⟩, rfl⟩, rfl⟩, rfl⟩

/-! ## The last label of a place -/

/-- A further entry changes the label of its place. -/
theorem labelAt?_insertAll_concat (es : List Entry) (d : Entry) (p : String × String × String) :
    (insertAll (es ++ [d])).labelAt? p =
      if p = d.place then some d.label else (insertAll es).labelAt? p := by
  rw [insertAll_concat]
  exact labelAt?_insert _ d.category d.group d.key d.label p

/-- With one more insertion, the last ones are this one and those at other places. -/
theorem isLast_concat {es : List Entry} {d e : Entry} :
    IsLast (es ++ [d]) e ↔ e = d ∨ (IsLast es e ∧ d.place ≠ e.place) := by
  constructor
  · intro h
    obtain ⟨before, after, heq, hafter⟩ := h
    rcases List.eq_nil_or_concat after with rfl | ⟨after', x, rfl⟩
    · obtain ⟨-, hlast⟩ := List.append_inj' heq rfl
      exact Or.inl (List.singleton_inj.mp hlast).symm
    · have hsplit : es ++ [d] = (before ++ e :: after') ++ [x] := by simpa using heq
      obtain ⟨hes, hlast⟩ := List.append_inj' hsplit rfl
      rw [← List.singleton_inj.mp hlast, List.concat_eq_append, List.forall_mem_append] at hafter
      exact Or.inr ⟨⟨before, after', hes, hafter.1⟩, hafter.2 d (List.mem_singleton_self d)⟩
  · intro h
    rcases h with rfl | ⟨⟨before, after, rfl, hafter⟩, hne⟩
    · exact ⟨es, [], rfl, List.forall_mem_nil _⟩
    · refine ⟨before, after ++ [d], by simp, ?_⟩
      rw [List.forall_mem_append]
      exact ⟨hafter, by simpa using hne⟩

/-- **The last insertion counts.** -/
theorem mem_entries_insertAll {es : List Entry} {e : Entry} :
    e ∈ (insertAll es).entries ↔ IsLast es e := by
  induction es using List.reverseRecOn with
  | nil =>
      refine iff_of_false List.not_mem_nil ?_
      intro h
      obtain ⟨before, after, heq, -⟩ := h
      exact absurd heq.symm (by simp)
  | append_singleton es d ih =>
      rw [mem_entries_iff] at ih
      rw [mem_entries_iff, labelAt?_insertAll_concat, isLast_concat, ← ih]
      by_cases hplace : e.place = d.place
      · rw [if_pos hplace, Option.some_inj, Entry.eq_iff]
        simp [hplace, eq_comm]
      · rw [if_neg hplace, Entry.eq_iff]
        simp [hplace, Ne.symm hplace]

/-- **A taxonomy made by insertions** lists each place that was named once, where it
was named first and with the label it was given last, and its text gives it back. -/
theorem collects_insertAll (es : List Entry) : (insertAll es).Collects es where
  places_eq := places_insertAll es
  mem_places_iff p := by
    rw [places_insertAll]
    exact mem_placesInOrder
  places_nodup := nodup_place _
  mem_entries_iff e := mem_entries_insertAll
  size_eq := by
    have hplaces : (es.map Entry.place).toFinset =
        ((insertAll es).entries.map Entry.place).toFinset := by
      ext p
      rw [List.mem_toFinset, List.mem_toFinset, places_insertAll]
      exact mem_placesInOrder.symm
    rw [hplaces, List.toFinset_card_of_nodup (nodup_place _), List.length_map]
    rfl
  compact := readTaxonomy_compact _
  pretty := readTaxonomy_pretty _

end Taxonomy

end DefectCatalog
