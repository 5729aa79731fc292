import DefectCatalog.Proofs.Taxonomy.Lookup

/-!
# The flags of a record by category

Entries of one category stand next to each other, so gathering neighbours makes
one group of each category that has a flag of the record (`gather_filter`).
Behind these groups stands the one of the flags that no entry describes; its
heading is not reserved, so a category of the taxonomy may have it too.  Every
flag of the record is in a group (`exists_flag_of_mem_flags`).
-/

namespace DefectCatalog

namespace Record

variable {r : Record} {key : String}

/-- The flags are the keys that are `true`, in the order of the members. -/
theorem flags_eq_filter (r : Record) : r.flags = r.fields.keys.filter r.flag := by
  apply OrderedMap.filterMap_entries_eq_filter
  intro k v hget
  rw [flag, hget]
  split <;> simp_all

/-- A member that is `true` is one of the flags. -/
theorem flag_iff_mem_flags : r.flag key ↔ key ∈ r.flags := by
  rw [flags_eq_filter, List.mem_filter, iff_and_self]
  intro hflag
  by_contra hunknown
  rw [flag, OrderedMap.get?_eq_none_iff.mpr hunknown] at hflag
  cases hflag

end Record

namespace Taxonomy

variable {t : Taxonomy} {r : Record} {key : String}

/-! ## Known keys -/

/-- A key is found if it is that of an entry. -/
theorem find?_isSome_iff : (t.find? key).isSome ↔ ∃ e ∈ t.entries, e.key = key := by
  rw [find?_eq, Option.isSome_map, List.find?_isSome]
  simp only [decide_eq_true_eq]

/-- The unknown flags are the flags that no entry has. -/
theorem mem_unknownFlags :
    key ∈ t.unknownFlags r ↔ key ∈ r.flags ∧ ∀ e ∈ t.entries, e.key ≠ key := by
  rw [unknownFlags, List.mem_filter, Option.isNone_iff_eq_none, ← Option.not_isSome_iff_eq_none,
    find?_isSome_iff]
  simp only [not_exists, not_and, ne_eq]

/-! ## Gathering -/

/-- Entries of one category become its group, in front of the groups of others. -/
theorem gather_append {category : String} {block rest : List Entry}
    (hblock : ∀ e ∈ block, e.category = category)
    (hrest : ∀ g ∈ gather rest, g.category ≠ category) :
    gather (block ++ rest) =
      if block = [] then gather rest else ⟨category, block.map Entry.flag⟩ :: gather rest := by
  induction block with
  | nil => rfl
  | cons e block ih =>
      rw [List.forall_mem_cons] at hblock
      obtain ⟨rfl, hblock⟩ := hblock
      rw [List.cons_append, gather, ih hblock, if_neg (List.cons_ne_nil e block)]
      by_cases hnil : block = []
      · subst hnil
        rw [if_pos rfl]
        cases hgroups : gather rest with
        | nil => rfl
        | cons g gs =>
            have hne : g.category ≠ e.category := hrest g (hgroups ▸ List.mem_cons_self)
            simp only [if_neg hne, List.map_cons, List.map_nil]
      · simp [if_neg hnil]

/-- The flags of a record in one category, in the order of the entries. -/
def flagsIn (t : Taxonomy) (r : Record) (category : String) : List Flag :=
  ((t.entries.filter fun e => e.category = category).filter fun e => r.flag e.key).map Entry.flag

/-- Blocks of entries under distinct names become one group each, except the empty ones. -/
theorem gather_flatMap {α : Type} {named : List (String × α)} {block : String × α → List Entry}
    (hnodup : (Keyed.keys named).Nodup) (hblock : ∀ x ∈ named, ∀ e ∈ block x, e.category = x.1) :
    gather (named.flatMap block) =
      (named.map fun x => ⟨x.1, (block x).map Entry.flag⟩).filter fun g => g.flags ≠ [] := by
  induction named with
  | nil => rfl
  | cons x named ih =>
      rw [Keyed.keys, List.map_cons, List.nodup_cons] at hnodup
      rw [List.forall_mem_cons] at hblock
      have hgroups := ih hnodup.2 hblock.2
      have hothers : ∀ g ∈ gather (named.flatMap block), g.category ≠ x.1 := by
        intro g hg heq
        rw [hgroups, List.mem_filter, List.mem_map] at hg
        obtain ⟨⟨y, hy, rfl⟩, -⟩ := hg
        exact hnodup.1 (heq ▸ List.mem_map_of_mem (f := Prod.fst) hy)
      rw [List.flatMap_cons, gather_append hblock.1 hothers, hgroups, List.map_cons,
        List.filter_cons]
      by_cases hnil : block x = []
      · simp [hnil]
      · simp [hnil]

/-- **Gathering makes one group of each category with a flag**, in the order of
the categories. -/
theorem gather_filter (t : Taxonomy) (r : Record) :
    gather (t.entries.filter fun e => r.flag e.key) =
      (t.categoryNames.map fun c => ⟨c, t.flagsIn r c⟩).filter fun g => g.flags ≠ [] := by
  have hgroups : ∀ x ∈ t.categories.entries,
      ((groupEntries x.1 x.2).filter fun e => r.flag e.key).map Entry.flag = t.flagsIn r x.1 := by
    intro x hx
    have hget : t.categories.get? x.1 = some x.2 := OrderedMap.mem_entries_iff.mp hx
    rw [flagsIn, filter_category, hget]
    rfl
  rw [entries_eq, List.filter_flatMap, gather_flatMap t.categories.nodup, categoryNames,
    OrderedMap.keys, Keyed.keys, List.map_map]
  · congr 1
    exact List.map_congr_left fun x hx => congrArg (CategoryFlags.mk x.1) (hgroups x hx)
  · intro x _ e he
    exact category_of_mem_groupEntries (List.mem_of_mem_filter he)

/-! ## The groups of a record -/

/-- The group of the flags that no entry describes. -/
def unknownGroup (t : Taxonomy) (r : Record) : CategoryFlags :=
  ⟨unclassified, (t.unknownFlags r).map fun key => ⟨"", key, key⟩⟩

variable {g : CategoryFlags} {f : Flag}

/-- The groups of the entries that are flags: one for each category with some. -/
theorem mem_gather_filter : g ∈ gather (t.entries.filter fun e => r.flag e.key) ↔
    g.category ∈ t.categoryNames ∧ g.flags = t.flagsIn r g.category ∧ g.flags ≠ [] := by
  rw [gather_filter, List.mem_filter, List.mem_map]
  constructor
  · rintro ⟨⟨c, hc, rfl⟩, hne⟩
    exact ⟨hc, rfl, of_decide_eq_true hne⟩
  · rintro ⟨hc, hflags, hne⟩
    exact ⟨⟨g.category, hc, by rw [← hflags]⟩, decide_eq_true hne⟩

/-- The categories of the taxonomy head one group each at most. -/
theorem nodup_category_gather_filter (t : Taxonomy) (r : Record) :
    ((gather (t.entries.filter fun e => r.flag e.key)).map CategoryFlags.category).Nodup := by
  have hnames : ((t.categoryNames.map fun c => (⟨c, t.flagsIn r c⟩ : CategoryFlags)).map
      CategoryFlags.category).Nodup := by
    have hnodup : t.categoryNames.Nodup := t.categories.nodup
    rw [List.map_map]
    simpa [Function.comp_def] using hnodup
  rw [gather_filter]
  exact hnames.sublist (List.filter_sublist.map _)

/-- The flags of a record are grouped by category, and the unknown ones stand last. -/
theorem classify_eq (t : Taxonomy) (r : Record) : t.classify r =
    gather (t.entries.filter fun e => r.flag e.key) ++
      if t.unknownFlags r = [] then [] else [t.unknownGroup r] := by
  simp only [classify, unknownGroup, List.isEmpty_iff]

/-- A group is one of entries, or that of the unknown flags. -/
theorem mem_classify : g ∈ t.classify r ↔
    g ∈ gather (t.entries.filter fun e => r.flag e.key) ∨
      t.unknownFlags r ≠ [] ∧ g = t.unknownGroup r := by
  rw [classify_eq, List.mem_append]
  by_cases hnil : t.unknownFlags r = []
  · simp [hnil]
  · simp [hnil]

/-- The flags in a category are those of its entries. -/
theorem mem_flagsIn {category : String} : f ∈ t.flagsIn r category ↔
    ∃ e ∈ t.entries, e.category = category ∧ r.flag e.key ∧ e.flag = f := by
  simp only [flagsIn, List.mem_map, List.mem_filter, decide_eq_true_eq, and_assoc]

/-- A flag of a category's group is a flag of the record that an entry describes. -/
theorem known_of_mem_gather_filter (hg : g ∈ gather (t.entries.filter fun e => r.flag e.key))
    (hf : f ∈ g.flags) : f.key ∉ t.unknownFlags r := by
  rw [(mem_gather_filter.mp hg).2.1, mem_flagsIn] at hf
  obtain ⟨e, he, -, -, rfl⟩ := hf
  exact fun hmem => (mem_unknownFlags.mp hmem).2 e he rfl

/-- A flag of a group is unknown exactly if the group is that of the unknown flags. -/
theorem mem_unknownFlags_iff_eq (hg : g ∈ t.classify r) (hf : f ∈ g.flags) :
    f.key ∈ t.unknownFlags r ↔ g = t.unknownGroup r := by
  constructor
  · intro hkey
    rcases mem_classify.mp hg with hg | ⟨-, hg⟩
    · exact absurd hkey (known_of_mem_gather_filter hg hf)
    · exact hg
  · rintro rfl
    obtain ⟨key, hkey, rfl⟩ := List.mem_map.mp hf
    exact hkey

/-- A flag of a group is unknown, or an entry of the group's category describes it. -/
theorem unknown_or_entry (hg : g ∈ t.classify r) (hf : f ∈ g.flags) :
    f.key ∈ t.unknownFlags r ∨ ∃ e ∈ t.entries, e.category = g.category ∧ e.key = f.key := by
  rcases mem_classify.mp hg with hknown | ⟨-, hunknown⟩
  · rw [(mem_gather_filter.mp hknown).2.1, mem_flagsIn] at hf
    obtain ⟨e, he, hcategory, -, rfl⟩ := hf
    exact Or.inr ⟨e, he, hcategory, rfl⟩
  · exact Or.inl ((mem_unknownFlags_iff_eq hg hf).mpr hunknown)

/-- A flag that an entry describes is in the group of the entry's category. -/
theorem exists_group_of_mem_entries {e : Entry} (he : e ∈ t.entries) (hflag : r.flag e.key) :
    ∃ g ∈ t.classify r, g.category = e.category ∧ e.flag ∈ g.flags := by
  have hf : e.flag ∈ t.flagsIn r e.category := mem_flagsIn.mpr ⟨e, he, rfl, hflag, rfl⟩
  have hcategory : e.category ∈ t.categoryNames := by
    rw [entries_eq] at he
    obtain ⟨x, hx, he⟩ := List.mem_flatMap.mp he
    exact category_of_mem_groupEntries he ▸ List.mem_map_of_mem (f := Prod.fst) hx
  have hg : (⟨e.category, t.flagsIn r e.category⟩ : CategoryFlags) ∈
      gather (t.entries.filter fun e => r.flag e.key) :=
    mem_gather_filter.mpr ⟨hcategory, rfl, List.ne_nil_of_mem hf⟩
  exact ⟨_, mem_classify.mpr (Or.inl hg), rfl, hf⟩

/-- A flag that no entry describes is in the group behind the categories. -/
theorem mem_unknownGroup (hkey : key ∈ t.unknownFlags r) :
    t.unknownGroup r ∈ t.classify r ∧ ⟨"", key, key⟩ ∈ (t.unknownGroup r).flags :=
  ⟨mem_classify.mpr (Or.inr ⟨List.ne_nil_of_mem hkey, rfl⟩), List.mem_map_of_mem hkey⟩

/-- **No flag is left out.**  Every flag of a record is in one of its groups. -/
theorem exists_flag_of_mem_flags (hkey : key ∈ r.flags) :
    ∃ g ∈ t.classify r, ∃ f ∈ g.flags, f.key = key := by
  by_cases hknown : ∃ e ∈ t.entries, e.key = key
  · obtain ⟨e, he, rfl⟩ := hknown
    obtain ⟨g, hg, -, hf⟩ := exists_group_of_mem_entries he (Record.flag_iff_mem_flags.mpr hkey)
    exact ⟨g, hg, e.flag, hf, rfl⟩
  · have hunknown : key ∈ t.unknownFlags r :=
      mem_unknownFlags.mpr ⟨hkey, fun e he heq => hknown ⟨e, he, heq⟩⟩
    obtain ⟨hg, hf⟩ := mem_unknownGroup hunknown
    exact ⟨_, hg, _, hf, rfl⟩

end Taxonomy

end DefectCatalog
