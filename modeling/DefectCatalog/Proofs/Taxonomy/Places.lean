import DefectCatalog.Proofs.OrderedMap.Updates
import DefectCatalog.Proofs.Taxonomy.Lookup

/-!
# Places in a taxonomy

A place is a category, a group of it and a key of the group.  The entries of a
taxonomy are the places that have a label (`mem_entries_iff`), and each place is
listed once (`nodup_place`).  Setting a label changes one place and no other
(`labelAt?_insert`).
-/

namespace DefectCatalog

namespace Taxonomy

/-- The place of an entry: its category, its group and its key. -/
def Entry.place (e : Entry) : String × String × String :=
  (e.category, e.group, e.key)

/-- An entry is its place and its label. -/
theorem Entry.eq_iff {e e' : Entry} : e = e' ↔ e.place = e'.place ∧ e.label = e'.label := by
  cases e
  cases e'
  simp only [place, Entry.mk.injEq, Prod.mk.injEq, and_assoc]

/-- The label at a place. -/
def labelAt? (t : Taxonomy) (p : String × String × String) : Option Label := do
  let groups ← t.categories.get? p.1
  let labels ← groups.get? p.2.1
  labels.get? p.2.2

variable {t : Taxonomy} {e e' : Entry}

/-- **The entries are the places with a label.** -/
theorem mem_entries_iff : e ∈ t.entries ↔ t.labelAt? e.place = some e.label := by
  simp only [entries_eq, groupEntries, labelEntries, List.mem_flatMap, List.mem_map, labelAt?,
    Entry.place, Option.bind_eq_bind, Option.bind_eq_some_iff]
  constructor
  · intro h
    obtain ⟨⟨category, groups⟩, hgroups, ⟨group, labels⟩, hlabels, ⟨key, label⟩, hlabel, rfl⟩ := h
    exact ⟨groups, OrderedMap.mem_entries_iff.mp hgroups, labels,
      OrderedMap.mem_entries_iff.mp hlabels, OrderedMap.mem_entries_iff.mp hlabel⟩
  · intro h
    obtain ⟨groups, hgroups, labels, hlabels, hlabel⟩ := h
    exact ⟨_, OrderedMap.mem_entries_iff.mpr hgroups, _, OrderedMap.mem_entries_iff.mpr hlabels,
      _, OrderedMap.mem_entries_iff.mpr hlabel, rfl⟩

/-- Two entries do not share a place. -/
theorem eq_of_place_eq (he : e ∈ t.entries) (he' : e' ∈ t.entries) (h : e.place = e'.place) :
    e = e' := by
  rw [mem_entries_iff] at he he'
  rw [h] at he
  exact Entry.eq_iff.mpr ⟨h, Option.some.inj (he.symm.trans he')⟩

/-- No entry is twice in a group. -/
theorem nodup_labelEntries (category group : String) (labels : OrderedMap Label) :
    (labelEntries category group labels).Nodup := by
  have hentries : labels.entries.Nodup := List.Nodup.of_map Prod.fst labels.nodup
  apply hentries.map
  intro l l' h
  simp only [Entry.mk.injEq, true_and] at h
  exact Prod.ext h.1 h.2

theorem nodup_groupEntries (category : String) (groups : OrderedMap (OrderedMap Label)) :
    (groupEntries category groups).Nodup :=
  Keyed.nodup_flatMap_of_nodup groups.nodup (fun e _ => nodup_labelEntries category e.1 e.2)
    fun _ _ _ => group_of_mem_labelEntries

/-- **Every place is listed once.** -/
theorem nodup_place (t : Taxonomy) : (t.entries.map Entry.place).Nodup := by
  have hentries : t.entries.Nodup :=
    Keyed.nodup_flatMap_of_nodup t.categories.nodup (fun e _ => nodup_groupEntries e.1 e.2)
      fun _ _ _ => category_of_mem_groupEntries
  apply hentries.map_on
  intro e he e' he' h
  exact eq_of_place_eq he he' h

/-! ## Setting a label -/

/-- Looking up in a map that may not be there is looking up twice. -/
theorem get?_getD_empty {α : Type} (m : Option (OrderedMap α)) (k : String) :
    (m.getD .empty).get? k = m.bind fun m => m.get? k := by
  cases m with
  | none => rfl
  | some m => rfl

/-- **Setting a label changes its place and no other.** -/
theorem labelAt?_insert (t : Taxonomy) (category group key : String) (label : Label)
    (p : String × String × String) :
    (t.insert category group key label).labelAt? p =
      if p = (category, group, key) then some label else t.labelAt? p := by
  obtain ⟨c, g, k⟩ := p
  simp only [labelAt?, insert, OrderedMap.get?_insert, Option.bind_eq_bind, Prod.mk.injEq]
  by_cases hc : c = category
  · subst hc
    by_cases hg : g = group
    · subst hg
      by_cases hk : k = key
      · simp [hk, OrderedMap.get?_insert]
      · simp [hk, OrderedMap.get?_insert, get?_getD_empty, Option.bind_assoc]
    · simp [hg, OrderedMap.get?_insert, get?_getD_empty, Option.bind_assoc]
  · simp [hc]

end Taxonomy

end DefectCatalog
