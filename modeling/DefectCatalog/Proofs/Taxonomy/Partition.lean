import DefectCatalog.Proofs.Taxonomy.Classify

/-!
# The groups of a record are a partition

The groups of a record list each of its flags as often as the taxonomy describes
it, and nothing else.  Gathering loses no entry and moves none
(`flatMap_listed_gather`), so the groups of the categories are the entries of the
record's flags, cut where the category changes.  A key that no entry describes
stands once in the group behind them (`undescribed`).  `exists_divides_classify`
puts the two parts together and counts how often a key is listed.
-/

namespace DefectCatalog

namespace Taxonomy

variable {t : Taxonomy} {r : Record} {key : String}

/-! ## Keys without an entry -/

/-- The keys that are `true` on a record and in no entry, in the order of its members. -/
def undescribed (t : Taxonomy) (r : Record) : List String :=
  r.fields.keys.filter fun key => r.flag key ∧ ∀ e ∈ t.entries, e.key ≠ key

/-- The undescribed keys are the flags that no entry has. -/
theorem mem_undescribed :
    key ∈ t.undescribed r ↔ r.flag key ∧ ∀ e ∈ t.entries, e.key ≠ key := by
  rw [undescribed, List.mem_filter, decide_eq_true_eq, and_iff_right_iff_imp]
  rintro ⟨hflag, -⟩
  rw [Record.flag_iff_mem_flags, Record.flags_eq_filter] at hflag
  exact List.mem_of_mem_filter hflag

theorem nodup_undescribed (t : Taxonomy) (r : Record) : (t.undescribed r).Nodup := by
  have hkeys : r.fields.keys.Nodup := r.fields.nodup
  exact hkeys.sublist List.filter_sublist

/-- The undescribed keys are what is put into the group of unknown flags. -/
theorem unknownFlags_eq_undescribed (t : Taxonomy) (r : Record) :
    t.unknownFlags r = t.undescribed r := by
  rw [unknownFlags, Record.flags_eq_filter, List.filter_filter, undescribed]
  refine List.filter_congr fun key _ => ?_
  have hnone : (t.find? key).isNone = decide (∀ e ∈ t.entries, e.key ≠ key) := by
    rw [Bool.eq_iff_iff, decide_eq_true_eq, Option.isNone_iff_eq_none,
      ← Option.not_isSome_iff_eq_none, find?_isSome_iff]
    simp only [not_exists, not_and, ne_eq]
  rw [hnone, Bool.and_comm, Bool.decide_and, Bool.decide_eq_true]

/-- A key without an entry is found once among its like. -/
theorem filter_undescribed (t : Taxonomy) (r : Record) (key : String) :
    (t.undescribed r).filter (fun k => k = key) =
      if r.flag key ∧ ∀ e ∈ t.entries, e.key ≠ key then [key] else [] := by
  have hfilter : (t.undescribed r).filter (fun k => k = key) =
      List.replicate ((t.undescribed r).count key) key := by
    rw [← List.filter_beq]
    rfl
  rw [hfilter, (nodup_undescribed t r).count]
  simp only [mem_undescribed]
  split <;> rfl

/-! ## Gathering loses nothing -/

/-- A flag as its entry describes it: its group, its key, and as its label the long name,
or the short one where there is no long name or an empty one. -/
def Entry.described (e : Entry) : Flag where
  group := e.group
  key := e.key
  label := (e.label.fullname.filter (· ≠ "")).getD e.label.name

/-- An entry is the flag with its group, its key and the display of its label. -/
theorem Entry.flag_eq_described : Entry.flag = Entry.described := by
  funext e
  have hlabel : e.label.display = (e.label.fullname.filter (· ≠ "")).getD e.label.name := by
    rw [Label.display]
    cases e.label.fullname with
    | none => rfl
    | some full => by_cases hempty : full = "" <;> simp [hempty, Option.filter_some]
  rw [flag, described, hlabel]

/-- The flag of an entry under its category. -/
def Entry.listed (e : Entry) : String × Flag :=
  (e.category, e.described)

/-- The flags of a group, each under the heading of the group. -/
def CategoryFlags.listed (g : CategoryFlags) : List (String × Flag) :=
  g.flags.map fun f => (g.category, f)

/-- The flags that are listed of a group are its flags. -/
theorem CategoryFlags.map_snd_listed (g : CategoryFlags) : g.listed.map Prod.snd = g.flags := by
  rw [listed, List.map_map]
  exact List.map_id g.flags

/-- **Gathering keeps every entry at its place**, under its category. -/
theorem flatMap_listed_gather (entries : List Entry) :
    (gather entries).flatMap CategoryFlags.listed = entries.map Entry.listed := by
  induction entries with
  | nil => rfl
  | cons e entries ih =>
      rw [gather, List.map_cons, ← ih]
      cases gather entries with
      | nil => simp [CategoryFlags.listed, Entry.listed, Entry.flag_eq_described]
      | cons g groups =>
          dsimp only
          split
          · next h => simp [CategoryFlags.listed, Entry.listed, Entry.flag_eq_described, h]
          · simp [CategoryFlags.listed, Entry.listed, Entry.flag_eq_described]

section Stretch

variable {entries : List Entry} {groups : List CategoryFlags}

/-- Without the headings, the groups are the flags of the entries that they list. -/
theorem flatMap_flags_of_listed
    (h : groups.flatMap CategoryFlags.listed = entries.map Entry.listed) :
    groups.flatMap CategoryFlags.flags = entries.map Entry.described := by
  have hsnd := congrArg (List.map Prod.snd) h
  simp only [List.map_flatMap, List.map_map, CategoryFlags.map_snd_listed] at hsnd
  exact hsnd

/-- The category of a listed entry is the heading of a group. -/
theorem category_mem_of_listed
    (h : groups.flatMap CategoryFlags.listed = entries.map Entry.listed) {e : Entry}
    (he : e ∈ entries) : e.category ∈ groups.map CategoryFlags.category := by
  have hpair : e.listed ∈ groups.flatMap CategoryFlags.listed :=
    h ▸ List.mem_map_of_mem he
  obtain ⟨g, hg, hpair⟩ := List.mem_flatMap.mp hpair
  obtain ⟨f, -, hf⟩ := List.mem_map.mp hpair
  have hcategory : g.category = e.category := congrArg Prod.fst hf
  exact hcategory ▸ List.mem_map_of_mem hg

/-- Where groups with different headings list entries under their categories, each
group is one stretch of the entries, and it holds all of its category. -/
theorem exists_stretch (h : groups.flatMap CategoryFlags.listed = entries.map Entry.listed)
    (hdistinct : (groups.map CategoryFlags.category).Nodup) {g : CategoryFlags} (hg : g ∈ groups) :
    ∃ before block after, entries = before ++ (block ++ after) ∧
      g.flags = block.map Entry.described ∧
      (∀ e ∈ block, e.category = g.category) ∧ ∀ e ∈ before ++ after, e.category ≠ g.category := by
  obtain ⟨left, right, rfl⟩ := List.append_of_mem hg
  rw [List.flatMap_append, List.flatMap_cons, eq_comm, List.map_eq_append_iff] at h
  obtain ⟨before, rest, rfl, hbefore, hrest⟩ := h
  obtain ⟨block, after, rfl, hblock, hafter⟩ := List.map_eq_append_iff.mp hrest
  have hgroup : [g].flatMap CategoryFlags.listed = block.map Entry.listed := by
    rw [hblock, List.flatMap_singleton]
  rw [List.map_append, List.map_cons, List.nodup_middle, List.nodup_cons, List.mem_append,
    not_or] at hdistinct
  obtain ⟨⟨hleft, hright⟩, -⟩ := hdistinct
  refine ⟨before, block, after, rfl, ?_, ?_, ?_⟩
  · simpa using flatMap_flags_of_listed hgroup
  · intro e he
    simpa using category_mem_of_listed hgroup he
  · intro e he heq
    rcases List.mem_append.mp he with he | he
    · exact hleft (heq ▸ category_mem_of_listed hbefore.symm he)
    · exact hright (heq ▸ category_mem_of_listed hafter.symm he)

end Stretch

/-! ## How often a key is listed -/

/-- Among the entries of a record's flags, those with one key are all or none. -/
theorem filter_flag_key (t : Taxonomy) (r : Record) (key : String) :
    (((t.entries.filter fun e => r.flag e.key).map Entry.described).filter fun f => f.key = key) =
      if r.flag key then (t.entries.filter fun e => e.key = key).map Entry.described else [] := by
  rw [List.filter_map, List.filter_filter]
  by_cases hflag : r.flag key
  · rw [if_pos hflag]
    refine congrArg (List.map Entry.described) (List.filter_congr fun e _ => ?_)
    by_cases he : e.key = key <;> simp [Entry.described, he, hflag]
  · rw [if_neg hflag, List.map_eq_nil_iff, List.filter_eq_nil_iff]
    intro e _ he
    obtain ⟨hkey, htrue⟩ := (Bool.and_eq_true ..).mp he
    exact hflag (of_decide_eq_true hkey ▸ htrue)

/-- What the groups behind the categories list of a key. -/
theorem filter_flags_unknown (t : Taxonomy) (r : Record) (key : String) :
    (((if t.unknownFlags r = [] then [] else [t.unknownGroup r]).flatMap
      CategoryFlags.flags).filter fun f => f.key = key) =
        if r.flag key ∧ ∀ e ∈ t.entries, e.key ≠ key then [⟨"", key, key⟩] else [] := by
  have hflags : (if t.unknownFlags r = [] then [] else [t.unknownGroup r]).flatMap
      CategoryFlags.flags = (t.undescribed r).map fun key => ⟨"", key, key⟩ := by
    split
    · next hnil => rw [← unknownFlags_eq_undescribed, hnil, List.flatMap_nil, List.map_nil]
    · rw [List.flatMap_singleton, unknownGroup, unknownFlags_eq_undescribed]
  have hfilter : ((t.undescribed r).filter fun k => k = key).map (fun key => Flag.mk "" key key) =
      if r.flag key ∧ ∀ e ∈ t.entries, e.key ≠ key then [⟨"", key, key⟩] else [] := by
    rw [filter_undescribed]
    split <;> rfl
  rw [hflags, List.filter_map, ← hfilter]
  rfl

/-- What all groups of a record list of a key: as its entries do, or else by itself. -/
theorem filter_flags_classify (t : Taxonomy) (r : Record) (key : String) :
    (((t.classify r).flatMap CategoryFlags.flags).filter fun f => f.key = key) =
      if r.flag key then
        if ∃ e ∈ t.entries, e.key = key then (t.entries.filter fun e => e.key = key).map Entry.described
        else [⟨"", key, key⟩]
      else [] := by
  have hlisted := flatMap_listed_gather (t.entries.filter fun e => r.flag e.key)
  rw [classify_eq, List.flatMap_append, List.filter_append, flatMap_flags_of_listed hlisted,
    filter_flag_key, filter_flags_unknown]
  by_cases hflag : r.flag key
  · by_cases hentry : ∃ e ∈ t.entries, e.key = key
    · have hnot : ¬ (r.flag key ∧ ∀ e ∈ t.entries, e.key ≠ key) := by
        rintro ⟨-, hnone⟩
        obtain ⟨e, he, heq⟩ := hentry
        exact hnone e he heq
      rw [if_pos hflag, if_neg hnot, List.append_nil, if_pos hflag, if_pos hentry]
    · have hnone : ∀ e ∈ t.entries, e.key ≠ key := fun e he heq => hentry ⟨e, he, heq⟩
      have hempty : (t.entries.filter fun e => e.key = key) = [] :=
        List.filter_eq_nil_iff.mpr fun e he => by simpa using hnone e he
      rw [if_pos hflag, if_pos ⟨hflag, hnone⟩, if_pos hflag, if_neg hentry, hempty]
      rfl
  · rw [if_neg hflag, if_neg fun h => hflag h.1, if_neg hflag]
    rfl

/-- How the groups of a record divide its flags: `known` are those of the
categories, `rest` is what stands behind them. -/
structure Divides (t : Taxonomy) (r : Record) (known rest : List CategoryFlags) : Prop where
  /-- One after the other, the groups of the categories list the entries whose key is
  `true`, in the order of the entries and each under its category. -/
  listed : known.flatMap CategoryFlags.listed =
    (t.entries.filter fun e => r.flag e.key).map Entry.listed
  /-- Each of them is one stretch of these entries, with all entries of its category. -/
  stretch : ∀ g ∈ known, ∃ before block after,
    (t.entries.filter fun e => r.flag e.key) = before ++ (block ++ after) ∧
      g.flags = block.map Entry.described ∧ (∀ e ∈ block, e.category = g.category) ∧
        ∀ e ∈ before ++ after, e.category ≠ g.category
  /-- None of them is empty. -/
  nonempty : ∀ g ∈ known, g.flags ≠ []
  /-- No two of them have the same heading. -/
  distinct : (known.map CategoryFlags.category).Nodup
  /-- Nothing stands behind them if every true key has an entry. -/
  complete : (∀ key, r.flag key → ∃ e ∈ t.entries, e.key = key) → rest = []
  /-- Else there is one group more, with the true keys that have none, labelled by themselves. -/
  other : (∃ key, r.flag key ∧ ∀ e ∈ t.entries, e.key ≠ key) →
    rest = [⟨"Other", (t.undescribed r).map fun key => ⟨"", key, key⟩⟩]
  /-- A true key is listed once for each of its entries, or once without one; no other key is. -/
  appearances : ∀ key, (((known ++ rest).flatMap CategoryFlags.flags).filter fun f => f.key = key) =
    if r.flag key then
      if ∃ e ∈ t.entries, e.key = key then (t.entries.filter fun e => e.key = key).map Entry.described
      else [⟨"", key, key⟩]
    else []

/-- **The groups of a record are a partition of its flags.**  The groups of the
categories list the entries of the flags, and one group behind them the flags
without an entry. -/
theorem exists_divides_classify (t : Taxonomy) (r : Record) :
    ∃ known rest, t.classify r = known ++ rest ∧ t.Divides r known rest := by
  have hlisted := flatMap_listed_gather (t.entries.filter fun e => r.flag e.key)
  have hdistinct := nodup_category_gather_filter t r
  refine ⟨_, _, classify_eq t r, hlisted, ?_, ?_, hdistinct, ?_, ?_, ?_⟩
  · intro g hg
    exact exists_stretch hlisted hdistinct hg
  · intro g hg
    exact (mem_gather_filter.mp hg).2.2
  · intro hcomplete
    rw [if_pos]
    refine List.eq_nil_iff_forall_not_mem.mpr fun key hkey => ?_
    obtain ⟨hflag, hnone⟩ := mem_undescribed.mp (unknownFlags_eq_undescribed t r ▸ hkey)
    obtain ⟨e, he, heq⟩ := hcomplete key hflag
    exact hnone e he heq
  · rintro ⟨key, hkey⟩
    have hmem : key ∈ t.unknownFlags r := unknownFlags_eq_undescribed t r ▸ mem_undescribed.mpr hkey
    rw [if_neg (List.ne_nil_of_mem hmem), unknownGroup, unknownFlags_eq_undescribed]
    rfl
  · intro key
    rw [← classify_eq]
    exact filter_flags_classify t r key

end Taxonomy

end DefectCatalog
