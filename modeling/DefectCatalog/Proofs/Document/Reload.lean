import DefectCatalog.Proofs.Document.Records
import DefectCatalog.Proofs.Json.ReadBack

/-!
# Saving and reloading a bug list

A list of records is saved as the JSON array of its records.  Reloading it gives
the same list back where the reader of JSON undoes the writer (`reload`): every
record states itself (`states_toJson`), an element of a bug list states one record
only (`States.unique`), and what reading a text gives is what the elements state.

The reader does not always undo the writer.  A number with many digits may be read
as another one, and a record that is built in memory may hold a value in which
containers nest deeper than the reader allows.
-/

namespace DefectCatalog

open Json (Value)

/-! ## Saving -/

/-- Records as a JSON value. -/
def savedValue (records : List Record) : Value :=
  .array (records.map Record.toJson)

/-- Records as JSON text, over several lines or without blanks. -/
def savedText (pretty : Bool) (records : List Record) : String :=
  if pretty then (savedValue records).pretty else (savedValue records).compact

/-- The fields of a record have names of their own, and values that JSON can hold:
numbers of its range, and objects that name no key twice. -/
def Record.Plain (r : Record) : Prop :=
  ∀ e ∈ r.fields.entries, e.1 ∉ namedKeys ∧ e.2.Sound ∧ e.2.Distinct

/-- A record that is built from its identity by setting its patch and fields. -/
inductive Record.Built : Record → Prop
  | new (project commit : String) : Built (.new project commit)
  | setPatch {r : Record} (built : r.Built) (patch : String) : Built (r.setPatch patch)
  | setField {r : Record} (built : r.Built) {key : String} {v : Value} (key_free : key ∉ namedKeys)
      (sound : v.Sound) (distinct : v.Distinct) : Built (r.setField key v)

/-- The reader of JSON can follow the values of the record inside a list. -/
def Record.HasRoom (r : Record) : Prop :=
  ∀ e ∈ r.fields.entries, e.2.depth + 2 ≤ Json.maxDepth

/-- The numbers in the record's values are read back from their texts. -/
def Record.Exact (r : Record) : Prop :=
  ∀ e ∈ r.fields.entries, e.2.Exact

variable {r r' : Record} {v : Value} {items : List Value} {records records' : List Record}

namespace Record

/-- A record that was built is plain. -/
theorem Built.plain (h : r.Built) : r.Plain := by
  induction h with
  | new project commit => exact List.forall_mem_nil _
  | setPatch _ patch ih => exact ih
  | setField _ hkey hsound hdistinct ih =>
      intro e he
      rcases Keyed.mem_put he with he | rfl
      · exact ih e he
      · exact ⟨hkey, hsound, hdistinct⟩

/-- A record that was read is plain. -/
theorem Given.plain (h : r.Given) : r.Plain := by
  intro e he
  obtain ⟨hkey, hreadable⟩ := h.readable_fields e he
  exact ⟨hkey, hreadable.sound, hreadable.distinct⟩

/-- A record that was read has room for the list around it. -/
theorem Given.hasRoom (h : r.Given) : r.HasRoom := by
  intro e he
  have hdepth : e.2.depth ≤ Json.maxDepth - 2 := (h.readable_fields e he).2.depth_le
  exact Nat.add_le_of_le_sub (by decide) hdepth

namespace Plain

variable (h : r.Plain)
include h

/-- A plain record has no member twice. -/
theorem nodup_keys : (Keyed.keys (("project", .string r.project) ::
    ("commit", .string r.commit) :: ("patch", .string r.patch) :: r.fields.entries)).Nodup := by
  have hfree (key : String) (hkey : key ∈ namedKeys) : key ∉ Keyed.keys r.fields.entries := by
    intro hmem
    obtain ⟨e, he, rfl⟩ := List.mem_map.mp hmem
    exact (h e he).1 hkey
  have hproject := hfree "project" (by decide)
  have hcommit := hfree "commit" (by decide)
  have hpatch := hfree "patch" (by decide)
  have hfields := r.fields.nodup
  simp only [Keyed.keys] at hproject hcommit hpatch hfields
  simp [Keyed.keys, hproject, hcommit, hpatch, hfields]

/-- What a plain record is saved as has no member twice anywhere. -/
theorem distinct_toJson : r.toJson.Distinct := by
  refine .object h.nodup_keys ?_
  simp only [List.forall_mem_cons]
  exact ⟨.string _, .string _, .string _, fun e he => (h e he).2.2⟩

/-- The numbers of a plain record can be read. -/
theorem sound_toJson : r.toJson.Sound := by
  refine .object ?_
  simp only [List.forall_mem_cons]
  exact ⟨.string _, .string _, .string _, fun e he => (h e he).2.1⟩

/-- A record states itself. -/
theorem states_toJson : States r.toJson r where
  project := rfl
  commit := Or.inl rfl
  patch := Or.inl rfl
  fields := by
    have hkept : (r.fields.entries.filter fun m => m.1 ∉ namedKeys) = r.fields.entries :=
      List.filter_eq_self.mpr fun e he => decide_eq_true (h e he).1
    exact ⟨_, rfl, hkept.symm⟩

end Plain

end Record

/-! ## Reloading -/

/-- **An element states one record only.** -/
theorem States.unique (h : States v r) (h' : States v r') : r = r' := by
  have hproject : r.project = r'.project := by
    have heq := h.project.symm.trans h'.project
    injection heq with heq
    injection heq
  have hcommit : r.commit = r'.commit := by
    have hid := h.identity?_eq.symm.trans h'.identity?_eq
    exact congrArg Prod.snd (Option.some.inj hid)
  have hpatch : r.patch = r'.patch := by
    rcases h.patch with htext | ⟨hnone, hempty⟩ <;> rcases h'.patch with htext' | ⟨hnone', hempty'⟩
    · have heq := htext.symm.trans htext'
      injection heq with heq
      injection heq
    · simp [htext] at hnone'
    · simp [htext'] at hnone
    · rw [hempty, hempty']
  have hfields : r.fields = r'.fields := by
    obtain ⟨members, hmembers, hentries⟩ := h.fields
    obtain ⟨members', hmembers', hentries'⟩ := h'.fields
    obtain rfl := Value.object.inj (hmembers.symm.trans hmembers')
    exact OrderedMap.eq_of_entries_eq (hentries.trans hentries'.symm)
  cases r
  cases r'
  simp_all

section Saved

variable (hplain : ∀ r ∈ records, r.Plain)
include hplain

/-- What plain records are saved as states them. -/
theorem forall₂_states_toJson : List.Forall₂ States (records.map Record.toJson) records := by
  rw [List.forall₂_map_left_iff, List.forall₂_same]
  exact fun r hr => (hplain r hr).states_toJson

/-- A saved list has no member twice anywhere. -/
theorem distinct_savedValue : (savedValue records).Distinct := by
  refine .array fun v hv => ?_
  obtain ⟨r, hr, rfl⟩ := List.mem_map.mp hv
  exact (hplain r hr).distinct_toJson

/-- The numbers of a saved list can be read. -/
theorem sound_savedValue : (savedValue records).Sound := by
  refine .array fun v hv => ?_
  obtain ⟨r, hr, rfl⟩ := List.mem_map.mp hv
  exact (hplain r hr).sound_toJson

/-- The value of a saved list is read as that list. -/
theorem recordsOfJson_savedValue (hnodup : (records.map Record.id).Nodup) :
    recordsOfJson (savedValue records) = .ok records := by
  have hstates := forall₂_states_toJson hplain
  have hfaithful := recordsOfJson_faithful (distinct_savedValue hplain)
  have hlist : IsBugList (savedValue records) :=
    (faithful_ok hstates hnodup).accepted_iff.mp ⟨records, rfl⟩
  obtain ⟨records', hread⟩ := hfaithful.accepted_iff.mpr hlist
  obtain ⟨items, hitems, hstates'⟩ := hfaithful.stated records' hread
  obtain rfl := Value.array.inj hitems
  have hunique : Relator.RightUnique States := fun _ _ _ h h' => h.unique h'
  rw [hread, List.right_unique_forall₂' hunique hstates' hstates]

/-- The text of a saved list is read as its value with the numbers that are read,
where there is room for it. -/
theorem read?_savedText (pretty : Bool) :
    Json.read? (savedText pretty records) =
      if (savedValue records).depth ≤ Json.maxDepth then some (savedValue records).reread
      else none := by
  have hsound := sound_savedValue hplain
  have hpretty := Json.read?_pretty hsound
  have hcompact := Json.read?_compact hsound
  rw [(distinct_savedValue hplain).reread.settled_eq] at hpretty hcompact
  cases pretty with
  | true => exact hpretty
  | false => exact hcompact

end Saved

/-- A saved list can be read exactly if all its records have room. -/
theorem depth_savedValue_le_iff :
    (savedValue records).depth ≤ Json.maxDepth ↔ ∀ r ∈ records, r.HasRoom := by
  have hroom (n : Nat) : n ≤ Json.maxDepth - 2 ↔ n + 2 ≤ Json.maxDepth :=
    Nat.le_sub_iff_add_le (by decide)
  rw [savedValue, show Json.maxDepth = Json.maxDepth - 2 + 1 + 1 from rfl,
    Value.depth_array_le_iff, List.forall_mem_map]
  refine forall₂_congr fun r _ => ?_
  rw [Record.toJson, Value.depth_object_le_iff, Record.HasRoom]
  simp only [List.forall_mem_cons, Value.depth, Nat.zero_le, true_and, ← hroom]

/-- Reading records is reading JSON, and records from that. -/
theorem readRecords_of_read? {text : String} (h : Json.read? text = some v) :
    readRecords text = recordsOfJson v := by
  simp only [readRecords, readJson, h, bind, Except.bind]

/-- A record that is stated by what is read from its text has numbers that come back. -/
theorem Record.Plain.exact_of_states (h : r.Plain) (hstates : States r.toJson.reread r) :
    r.Exact := by
  obtain ⟨members, hmembers, hentries⟩ := hstates.fields
  rw [Record.toJson, Value.reread_object] at hmembers
  obtain rfl := Value.object.inj hmembers
  have hkept : (r.fields.entries.map fun m => (m.1, m.2.reread)).filter
      (fun m => m.1 ∉ namedKeys) = r.fields.entries.map fun m => (m.1, m.2.reread) := by
    refine List.filter_eq_self.mpr (List.forall_mem_map.mpr fun e he => ?_)
    exact decide_eq_true (h e he).1
  have hself : r.fields.entries = r.fields.entries.map fun m => (m.1, m.2.reread) :=
    hentries.trans hkept
  intro e he
  have hvalue := List.map_inj_left.mp (hself.symm.trans (List.map_id _).symm) e he
  exact (h e he).2.1.reread_eq_iff.mp (congrArg Prod.snd hvalue)

/-- Exact records are saved as what is read. -/
theorem reread_savedValue (hplain : ∀ r ∈ records, r.Plain) (hexact : ∀ r ∈ records, r.Exact) :
    (savedValue records).reread = savedValue records := by
  refine (sound_savedValue hplain).reread_eq_iff.mpr ?_
  refine .array (List.forall_mem_map.mpr fun r hr => .object ?_)
  simp only [List.forall_mem_cons]
  exact ⟨.string _, .string _, .string _, hexact r hr⟩

section Undone

variable (hplain : ∀ r ∈ records, r.Plain) (hnodup : (records.map Record.id).Nodup)
include hplain hnodup

/-- Where the reader of JSON undoes the writer, reloading undoes saving. -/
theorem readRecords_savedText {pretty : Bool}
    (hread : Json.read? (savedText pretty records) = some (savedValue records)) :
    readRecords (savedText pretty records) = .ok records := by
  rw [readRecords_of_read? hread]
  exact recordsOfJson_savedValue hplain hnodup

/-- **Reloading undoes saving exactly if no record nests too deep and all numbers come back.** -/
theorem readRecords_savedText_iff (pretty : Bool) :
    readRecords (savedText pretty records) = .ok records ↔
      ∀ r ∈ records, r.HasRoom ∧ r.Exact := by
  have hread := read?_savedText hplain pretty
  constructor
  · intro hrecords
    by_cases hdepth : (savedValue records).depth ≤ Json.maxDepth
    · rw [if_pos hdepth] at hread
      rw [readRecords_of_read? hread] at hrecords
      have hfaithful := recordsOfJson_faithful (distinct_savedValue hplain).reread
      obtain ⟨items, hitems, hstates⟩ := hfaithful.stated records hrecords
      rw [savedValue, Value.reread_array, List.map_map] at hitems
      obtain rfl := Value.array.inj hitems
      rw [List.forall₂_map_left_iff, List.forall₂_same] at hstates
      exact fun r hr => ⟨depth_savedValue_le_iff.mp hdepth r hr,
        (hplain r hr).exact_of_states (hstates r hr)⟩
    · rw [if_neg hdepth] at hread
      simp [readRecords, readJson, hread, bind, Except.bind] at hrecords
  · intro h
    rw [if_pos (depth_savedValue_le_iff.mpr fun r hr => (h r hr).1),
      reread_savedValue hplain fun r hr => (h r hr).2] at hread
    exact readRecords_savedText hplain hnodup hread

end Undone

/-- **Records survive saving and reloading.**  Wherever the reader of JSON undoes the
writer, a list that was read is given back by the text it is saved as, and so is a
list of records that were built, with distinct identities.  The first is given back
exactly if all its numbers are read back from their texts, the second one exactly
if besides no value nests too deep. -/
theorem reload (records : List Record) (pretty : Bool) :
    (∀ text, readRecords text = .ok records →
      (Json.read? (savedText pretty records) = some (savedValue records) →
        readRecords (savedText pretty records) = .ok records) ∧
      (readRecords (savedText pretty records) = .ok records ↔ ∀ r ∈ records, r.Exact)) ∧
    ((records.map Record.id).Nodup → (∀ r ∈ records, r.Built) →
      (Json.read? (savedText pretty records) = some (savedValue records) →
        readRecords (savedText pretty records) = .ok records) ∧
      (readRecords (savedText pretty records) = .ok records ↔
        ∀ r ∈ records, r.HasRoom ∧ r.Exact)) := by
  constructor
  · intro text htext
    have hgiven : ∀ r ∈ records, r.Given := fun r hr => ⟨text, records, htext, hr⟩
    have hplain : ∀ r ∈ records, r.Plain := fun r hr => (hgiven r hr).plain
    have hnodup := nodup_id_of_readRecords htext
    refine ⟨readRecords_savedText hplain hnodup, ?_⟩
    rw [readRecords_savedText_iff hplain hnodup]
    exact forall₂_congr fun r hr => and_iff_right (hgiven r hr).hasRoom
  · intro hnodup hbuilt
    have hplain : ∀ r ∈ records, r.Plain := fun r hr => (hbuilt r hr).plain
    exact ⟨readRecords_savedText hplain hnodup, readRecords_savedText_iff hplain hnodup pretty⟩

/-- A record whose commit is a number and whose patch is null. -/
def numericCommit : String :=
  "[\x7b\"project\":\"A\",\"commit\":1,\"patch\":null,\"crash\":true\x7d]"

/-- The number and the null are settled when they are read, and come back as text. -/
theorem reload_of_numericCommit :
    let r := (Record.new "A" "1").setField "crash" (.bool true)
    readRecords numericCommit = .ok [r] ∧ readRecords (savedText true [r]) = .ok [r] ∧
      r.Built ∧ Json.read? (savedText false [r]) = some (savedValue [r]) ∧
        readRecords (savedText false [r]) = .ok [r] := by
  intro r
  have hread : readRecords numericCommit = .ok [r] := rfl
  have hbuilt : r.Built := .setField (.new "A" "1") (by decide) (.bool true) (.bool true)
  have hfields : r.fields.entries = [("crash", .bool true)] := rfl
  have hexact : ∀ r' ∈ [r], r'.Exact := by
    rw [List.forall_mem_singleton, Record.Exact, hfields, List.forall_mem_singleton]
    exact .bool true
  have hroom : ∀ r' ∈ [r], r'.HasRoom := by
    rw [List.forall_mem_singleton, Record.HasRoom, hfields, List.forall_mem_singleton]
    decide
  have hplain : ∀ r' ∈ [r], r'.Plain := List.forall_mem_singleton.mpr hbuilt.plain
  have hundone : Json.read? (savedText false [r]) = some (savedValue [r]) := by
    rw [read?_savedText hplain, if_pos (depth_savedValue_le_iff.mpr hroom),
      reread_savedValue hplain hexact]
  obtain ⟨-, hgiven⟩ := (reload [r] true).1 numericCommit hread
  obtain ⟨hsaved, -⟩ := (reload [r] false).2 (List.nodup_singleton _)
    (List.forall_mem_singleton.mpr hbuilt)
  exact ⟨hread, hgiven.mpr hexact, hbuilt, hundone, hsaved hundone⟩

end DefectCatalog
