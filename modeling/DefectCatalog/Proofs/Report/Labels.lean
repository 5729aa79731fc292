import DefectCatalog.Proofs.Report.ReadBack

/-!
# The labels of a report read back

The structured report on a bug lists the groups of its flags in an object, by
category.  The groups of the taxonomy's categories have distinct names, but the
group of the flags that no entry describes can have the name of one of them, and
of two groups with one name only the last is left (`member?_labels_iff`).
-/

namespace DefectCatalog.Report.Structured

open Json (Value)

variable {t : Taxonomy} {r : Record} {category : String}

/-- A flag with its label shows both. -/
theorem labelled_inj {key label key' label' : String} :
    labelled key label = labelled key' label' ↔ key = key' ∧ label = label' := by
  simp [labelled]

/-- What a reader finds of a flag: its key with its label, in the labels of the category. -/
def Lists (w : Value) (category : String) (f : Taxonomy.Flag) : Prop :=
  ∃ all items, w.member? "labels" = some all ∧ all.member? category = some (.array items) ∧
    labelled f.key f.label ∈ items

/-- A group lists the flags with their labels. -/
theorem labelled_mem_iff {g : Taxonomy.CategoryFlags} {f : Taxonomy.Flag} {items : List Value}
    (h : labelsOf g = .array items) :
    labelled f.key f.label ∈ items ↔ ∃ f' ∈ g.flags, f'.key = f.key ∧ f'.label = f.label := by
  cases h
  simp [labelled_inj]

/-- A group as a member of the labels. -/
def groupMember (g : Taxonomy.CategoryFlags) : String × Value :=
  (g.category, labelsOf g)

/-- A category has the last group of its name. -/
theorem member?_labels (t : Taxonomy) (r : Record) (category : String) :
    (Value.object (labels t r)).member? category =
      Keyed.last? ((t.classify r).map groupMember) category := by
  rw [labels_eq_putAll, Value.member?, Keyed.lookup?_putAll]
  exact Option.or_none

/-- No two groups of entries have one category. -/
theorem last?_groupMember_iff {v : Value} :
    Keyed.last? ((Taxonomy.gather (t.entries.filter fun e => r.flag e.key)).map groupMember)
        category = some v ↔
      ∃ g ∈ Taxonomy.gather (t.entries.filter fun e => r.flag e.key),
        g.category = category ∧ labelsOf g = v := by
  have hnodup : (Keyed.keys ((Taxonomy.gather
      (t.entries.filter fun e => r.flag e.key)).map groupMember)).Nodup := by
    rw [Keyed.keys, List.map_map]
    exact Taxonomy.nodup_category_gather_filter t r
  rw [Keyed.last?_of_nodup hnodup, Keyed.lookup?_eq_some_iff hnodup, List.mem_map]
  simp only [groupMember, Prod.mk.injEq]

/-- **The groups that are left.**  They are those of the flags that no entry
describes and of the categories with another name. -/
theorem member?_labels_iff {v : Value} :
    (Value.object (labels t r)).member? category = some v ↔
      ∃ g ∈ t.classify r, g.category = category ∧ labelsOf g = v ∧
        (t.unknownFlags r = [] ∨ category ≠ Taxonomy.unclassified ∨ g = t.unknownGroup r) := by
  rw [member?_labels]
  by_cases hnil : t.unknownFlags r = []
  · rw [Taxonomy.classify_eq, if_pos hnil, List.append_nil, last?_groupMember_iff]
    simp only [hnil, true_or, and_true]
  · have hunknown : Keyed.last? ([t.unknownGroup r].map groupMember) category =
        if Taxonomy.unclassified = category then some (labelsOf (t.unknownGroup r)) else none := rfl
    rw [Taxonomy.classify_eq, if_neg hnil, List.map_append, Keyed.last?_append, hunknown]
    by_cases hcategory : Taxonomy.unclassified = category
    · subst hcategory
      have hgroup : ∀ g, (t.unknownFlags r = [] ∨ Taxonomy.unclassified ≠ Taxonomy.unclassified ∨
          g = t.unknownGroup r) ↔ g = t.unknownGroup r := by simp [hnil]
      rw [if_pos rfl, Option.some_or, Option.some_inj]
      simp only [hgroup]
      constructor
      · intro h
        exact ⟨_, List.mem_append_right _ (List.mem_singleton_self _), rfl, h, rfl⟩
      · rintro ⟨g, -, -, h, rfl⟩
        exact h
    · have hgroup : (t.unknownGroup r).category ≠ category := hcategory
      simp only [if_neg hcategory, Option.none_or, last?_groupMember_iff, ne_eq, Ne.symm hcategory,
        not_false_eq_true, true_or, or_true, and_true]
      simp [or_and_right, exists_or, hgroup]

/-- The flags that a reader finds are those of the groups that are left. -/
theorem lists_bug_iff (hr : Legible r) (t : Taxonomy) (o : Options) {f : Taxonomy.Flag} :
    Lists (bug r t o).reread.settled category f ↔
      ∃ g ∈ t.classify r, g.category = category ∧
        (t.unknownFlags r = [] ∨ category ≠ Taxonomy.unclassified ∨ g = t.unknownGroup r) ∧
        ∃ f' ∈ g.flags, f'.key = f.key ∧ f'.label = f.label := by
  have hlabels : (bug r t o).reread.settled.member? "labels" = some (.object (labels t r)) := by
    have hfound : (bug r t o).reread.settled.member? "labels" =
        ((bug r t o).settled.member? "labels").map Value.reread :=
      member?_reread_of_readable (readable_members_bug hr t o) "labels"
    rw [hfound, member?_bug hr]
    exact congrArg some (exact_labels t r).reread_eq
  constructor
  · rintro ⟨all, items, hall, hitems, hmem⟩
    obtain rfl := Option.some.inj (hlabels.symm.trans hall)
    obtain ⟨g, hg, hcategory, hgroup, hleft⟩ := member?_labels_iff.mp hitems
    exact ⟨g, hg, hcategory, hleft, (labelled_mem_iff hgroup).mp hmem⟩
  · rintro ⟨g, hg, hcategory, hleft, hf⟩
    exact ⟨_, _, hlabels, member?_labels_iff.mpr ⟨g, hg, hcategory, rfl, hleft⟩,
      (labelled_mem_iff rfl).mpr hf⟩

/-- **When a flag of a group is listed under its category.** -/
theorem lists_of_group_iff (hr : Legible r) (o : Options) {g : Taxonomy.CategoryFlags}
    (hg : g ∈ t.classify r) {f : Taxonomy.Flag} (hf : f ∈ g.flags) :
    Lists (bug r t o).reread.settled g.category f ↔
      t.unknownFlags r = [] ∨ g.category ≠ Taxonomy.unclassified ∨ f.key ∈ t.unknownFlags r := by
  rw [lists_bug_iff hr]
  constructor
  · rintro ⟨g', hg', -, hleft, f', hf', hkey, -⟩
    rwa [← Taxonomy.mem_unknownFlags_iff_eq hg' hf', hkey] at hleft
  · intro hleft
    rw [Taxonomy.mem_unknownFlags_iff_eq hg hf] at hleft
    exact ⟨g, hg, rfl, hleft, f, hf, rfl, rfl⟩

/-- **When a flag is listed at all.** -/
theorem exists_lists_iff (hr : Legible r) (t : Taxonomy) (o : Options) {key : String}
    (hkey : key ∈ r.flags) :
    (∃ category f, f.key = key ∧ Lists (bug r t o).reread.settled category f) ↔
      t.unknownFlags r = [] ∨ key ∈ t.unknownFlags r ∨
        ∃ e ∈ t.entries, e.key = key ∧ e.category ≠ Taxonomy.unclassified := by
  simp only [lists_bug_iff hr]
  constructor
  · rintro ⟨category, f, rfl, g, hg, rfl, hleft, f', hf', hf'key, -⟩
    rw [← Taxonomy.mem_unknownFlags_iff_eq hg hf', hf'key] at hleft
    rcases hleft with hnil | hcategory | hunknown
    · exact Or.inl hnil
    · rw [← hf'key]
      rcases Taxonomy.unknown_or_entry hg hf' with hunknown | ⟨e, he, heq, hekey⟩
      · exact Or.inr (Or.inl hunknown)
      · exact Or.inr (Or.inr ⟨e, he, hekey, heq ▸ hcategory⟩)
    · exact Or.inr (Or.inl hunknown)
  · rintro (hnil | hunknown | ⟨e, he, rfl, hcategory⟩)
    · obtain ⟨g, hg, f, hf, hfkey⟩ := Taxonomy.exists_flag_of_mem_flags (t := t) hkey
      exact ⟨_, f, hfkey, g, hg, rfl, Or.inl hnil, f, hf, rfl, rfl⟩
    · obtain ⟨hg, hf⟩ := Taxonomy.mem_unknownGroup hunknown
      exact ⟨_, _, rfl, _, hg, rfl, Or.inr (Or.inr rfl), _, hf, rfl, rfl⟩
    · obtain ⟨g, hg, hge, hf⟩ :=
        Taxonomy.exists_group_of_mem_entries he (Record.flag_iff_mem_flags.mpr hkey)
      exact ⟨_, _, rfl, g, hg, hge, Or.inr (Or.inl hcategory), _, hf, rfl, rfl⟩

/-- **Which classifications the labels give back.**  The report can be read, and
lists a flag of a group under its category unless flags that no entry describes
stand under the same name.  A flag of the record that is described is listed
nowhere exactly if there are such flags and all its entries are in that category. -/
theorem lists_iff (hr : Legible r) (t : Taxonomy) (o : Options) (pretty : Bool) :
    ∃ w, Json.read? ((ReportKind.json pretty).bug r t o) = some w ∧
      (∀ g ∈ t.classify r, ∀ f ∈ g.flags, Lists w g.category f ↔
        t.unknownFlags r = [] ∨ g.category ≠ Taxonomy.unclassified ∨ f.key ∈ t.unknownFlags r) ∧
      ∀ key ∈ r.flags, (∃ category f, f.key = key ∧ Lists w category f) ↔
        t.unknownFlags r = [] ∨ key ∈ t.unknownFlags r ∨
          ∃ e ∈ t.entries, e.key = key ∧ e.category ≠ Taxonomy.unclassified :=
  ⟨_, read?_bug hr t o pretty, fun _ hg _ hf => lists_of_group_iff hr o hg hf,
    fun _ hkey => exists_lists_iff hr t o hkey⟩

theorem lists_iff_of_plainBug :
    let t := Taxonomy.empty.insert "Symptoms" "Crashes" "crash" ⟨"Crash", none⟩
    Legible plainBug ∧ ∃ w, Json.read? ((ReportKind.json true).bug plainBug t {}) = some w ∧
      Lists w "Symptoms" ⟨"Crashes", "crash", "Crash"⟩ := by
  intro t
  have hlegible := legible_of_given given_plainBug
  have hclassify : t.classify plainBug = [⟨"Symptoms", [⟨"Crashes", "crash", "Crash"⟩]⟩] := by
    decide
  obtain ⟨w, hw, hgroups, -⟩ := lists_iff hlegible t {} true
  rw [hclassify] at hgroups
  have hlists := hgroups _ (List.mem_singleton_self _) _ (List.mem_singleton_self _)
  exact ⟨hlegible, w, hw, hlists.mpr (Or.inl (by decide))⟩

/-- A bug list with one record that has two flags. -/
def twoFlags : String :=
  "[\x7b\"project\":\"Lang\",\"commit\":1,\"crash\":true,\"hang\":true\x7d]"

/-- **Not every classification is in the labels.**  The group of the flags that no
entry describes takes the place of a category with its name. -/
theorem labels_lose_flag :
    let t := Taxonomy.empty.insert "Other" "Symptoms" "crash" ⟨"Crash", none⟩
    let r := ((Record.new "Lang" "1").setField "crash" (.bool true)).setField "hang" (.bool true)
    readRecords twoFlags = .ok [r] ∧
      t.classify r =
        [⟨"Other", [⟨"Symptoms", "crash", "Crash"⟩]⟩, ⟨"Other", [⟨"", "hang", "hang"⟩]⟩] ∧
      ∃ w, Json.read? ((ReportKind.json false).bug r t {}) = some w ∧
        ¬ ∃ category f, f.key = "crash" ∧ Lists w category f := by
  intro t r
  have hr : r.Given := ⟨twoFlags, [r], rfl, List.mem_singleton_self _⟩
  have hlegible := legible_of_given hr
  have hother : ∀ g ∈ t.classify r, g.category = Taxonomy.unclassified := by decide
  have hunknown : t.unknownFlags r = ["hang"] := by decide
  refine ⟨rfl, by decide, _, read?_bug hlegible t {} false, ?_⟩
  rintro ⟨category, f, hkey, hlists⟩
  obtain ⟨g, hg, rfl, hleft, f', hf', hf'key, -⟩ := (lists_bug_iff hlegible t {}).mp hlists
  rw [← Taxonomy.mem_unknownFlags_iff_eq hg hf', hf'key, hkey, hunknown] at hleft
  rcases hleft with hnil | hcategory | hmem
  · cases hnil
  · exact hcategory (hother g hg)
  · exact absurd hmem (by decide)

end DefectCatalog.Report.Structured
