import DefectCatalog.Document
import DefectCatalog.Proofs.Json.ReadBack

/-!
# Saving and reloading a taxonomy

A taxonomy is saved as nested JSON objects, one for each of its maps, and reading
the text gives the same taxonomy back: the order on every level, empty categories
and groups, and the long names, of which an absent one stays absent and an empty
one stays empty.  Four containers are open at most, and no object names a key
twice, so the reader of JSON undoes the writer (`readable_toJson`).
-/

namespace DefectCatalog

open Json (Value)

variable {α : Type} {n : Nat}

/-! ## Maps as objects -/

/-- A map as a JSON object. -/
def objectOf (write : α → Value) (m : OrderedMap α) : Value :=
  .object (m.entries.map fun e => (e.1, write e.2))

/-- A map is readable if its values are, with one container less. -/
theorem readable_objectOf {write : α → Value} (h : ∀ a, (write a).Readable n)
    (m : OrderedMap α) : (objectOf write m).Readable (n + 1) := by
  refine .object ?_ ?_
  · rw [Keyed.keys, List.map_map]
    exact m.nodup
  · intro e he
    obtain ⟨e', -, rfl⟩ := List.mem_map.mp he
    exact h e'.2

/-- A map is read back if its values are. -/
theorem reread_objectOf {write : α → Value} (h : ∀ a, (write a).reread = write a)
    (m : OrderedMap α) : (objectOf write m).reread = objectOf write m := by
  rw [objectOf, Value.reread_object, List.map_map]
  exact congrArg Value.object (List.map_congr_left fun e _ => by rw [Function.comp_apply, h])

section ReadMap

variable {read : Value → Except ShapeFault α} {write : α → Value}

/-- The members of an object are inserted behind those that were read before. -/
theorem foldlM_insert_eq_ok (h : ∀ a, read (write a) = .ok a) {pairs : List (String × α)}
    {before m : OrderedMap α} (hm : m.entries = before.entries ++ pairs) :
    (pairs.map fun e => (e.1, write e.2)).foldlM
      (fun m e => return m.insert e.1 (← read e.2)) before = .ok m := by
  induction pairs generalizing before with
  | nil =>
      rw [List.append_nil] at hm
      rw [OrderedMap.eq_of_entries_eq hm]
      rfl
  | cons e pairs ih =>
      have hnew : e.1 ∉ before.keys := by
        intro hmem
        have hnodup := m.nodup
        rw [hm, Keyed.keys, List.map_append, List.nodup_append] at hnodup
        exact hnodup.2.2 _ hmem _ List.mem_cons_self rfl
      have hinsert : m.entries = (before.insert e.1 e.2).entries ++ pairs := by
        rw [OrderedMap.entries_insert_of_not_mem hnew, hm, List.append_assoc]
        rfl
      rw [List.map_cons, List.foldlM_cons, h]
      exact ih hinsert

/-- **A map is read back from its object**, if its values are. -/
theorem readMap_objectOf (h : ∀ a, read (write a) = .ok a) (m : OrderedMap α) :
    readMap read (objectOf write m) = .ok m :=
  foldlM_insert_eq_ok h (List.nil_append m.entries).symm

end ReadMap

/-! ## Taxonomies as objects -/

namespace Taxonomy

/-- A label nests one deep. -/
theorem readable_labelToJson (l : Label) : (labelToJson l).Readable (n + 1) := by
  cases hfull : l.fullname with
  | none =>
      simp only [labelToJson, hfull]
      refine .object (by simp [Keyed.keys]) ?_
      simp only [List.forall_mem_cons]
      exact ⟨.string _, List.forall_mem_nil _⟩
  | some full =>
      simp only [labelToJson, hfull]
      refine .object (by simp [Keyed.keys]) ?_
      simp only [List.forall_mem_cons]
      exact ⟨.string _, .string _, List.forall_mem_nil _⟩

/-- A label holds no number. -/
theorem reread_labelToJson (l : Label) : (labelToJson l).reread = labelToJson l := by
  obtain ⟨name, fullname⟩ := l
  cases fullname with
  | none => rfl
  | some full => rfl

/-- An absent long name and an empty one are read back as they were. -/
theorem ofJson_labelToJson (l : Label) : Label.ofJson (labelToJson l) = .ok l := by
  obtain ⟨name, fullname⟩ := l
  cases fullname with
  | none => rfl
  | some full => rfl

/-- A taxonomy is a map of maps of maps of labels. -/
theorem toJson_eq_objectOf (t : Taxonomy) :
    t.toJson = objectOf (objectOf (objectOf labelToJson)) t.categories :=
  rfl

/-- A taxonomy can be read. -/
theorem readable_toJson (t : Taxonomy) : t.toJson.Readable Json.maxDepth := by
  have hdepth : t.toJson.Readable 4 := by
    rw [toJson_eq_objectOf]
    exact readable_objectOf (readable_objectOf (readable_objectOf readable_labelToJson)) _
  exact hdepth.mono (by decide)

/-- No numbers are in a taxonomy that could be read as others. -/
theorem reread_toJson (t : Taxonomy) : t.toJson.reread = t.toJson := by
  rw [toJson_eq_objectOf]
  exact reread_objectOf (reread_objectOf (reread_objectOf reread_labelToJson)) t.categories

/-- **A taxonomy is read back from its JSON value.** -/
theorem ofJson_toJson (t : Taxonomy) : Taxonomy.ofJson t.toJson = .ok t := by
  rw [toJson_eq_objectOf, ofJson,
    readMap_objectOf (readMap_objectOf (readMap_objectOf ofJson_labelToJson))]
  rfl

/-- An object that states a taxonomy is read as this taxonomy. -/
theorem readTaxonomy_of_read? {t : Taxonomy} {text : String} {members : List (String × Value)}
    (hread : Json.read? text = some (.object members)) (h : ofJson (.object members) = .ok t) :
    readTaxonomy text = .ok t := by
  have hjson : readJson text = .ok (.object members) := by rw [readJson, hread]
  rw [readTaxonomy, hjson]
  simp only [bind, Except.bind, h]

/-- **A taxonomy survives saving and reloading**, as it is. -/
theorem readTaxonomy_compact (t : Taxonomy) : readTaxonomy t.toJson.compact = .ok t := by
  have hread := t.readable_toJson.read?_compact
  rw [t.reread_toJson] at hread
  exact readTaxonomy_of_read? hread t.ofJson_toJson

/-- **A taxonomy is read back from its text on several lines.** -/
theorem readTaxonomy_pretty (t : Taxonomy) : readTaxonomy t.toJson.pretty = .ok t := by
  have hread := t.readable_toJson.read?_pretty
  rw [t.reread_toJson] at hread
  exact readTaxonomy_of_read? hread t.ofJson_toJson

end Taxonomy

end DefectCatalog
