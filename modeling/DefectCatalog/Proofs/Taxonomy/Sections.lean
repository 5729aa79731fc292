import DefectCatalog.Proofs.Taxonomy.Lookup
import DefectCatalog.Taxonomy.Outline
import Mathlib.Data.List.Induction

/-!
# The sections of an outline

The outline of a taxonomy writes a heading wherever the category or the group changes
from one entry to the next.  A taxonomy lists its entries category by category and group
by group, so they fall into sections (`exists_sectioned`), and a change is always one to a
section or a group that has not been there yet: the outline is these sections, each under
its headings (`Sectioned.outline_eq`).  A group may have the name of one in the category
before it; what makes it another group is the heading of its category.
-/

namespace DefectCatalog

namespace Taxonomy

/-- The entries of a category by group. -/
structure Section where
  category : String
  /-- The groups with their entries, -/
  groups : List (String × List Entry)
  /-- each of them once, -/
  nodup : (Keyed.keys groups).Nodup
  /-- at least one, -/
  nonempty : groups ≠ []
  /-- none without entries, -/
  filled : ∀ g ∈ groups, g.2 ≠ []
  /-- and none with entries of another group or category. -/
  placed : ∀ g ∈ groups, ∀ e ∈ g.2, e.category = category ∧ e.group = g.1

/-- The entries of a section, in order. -/
def Section.entries (s : Section) : List Entry :=
  s.groups.flatMap Prod.snd

/-- Entries in order are those of the sections, one for each category. -/
structure Sectioned (es : List Entry) (ss : List Section) : Prop where
  entries_eq : ss.flatMap Section.entries = es
  nodup : (ss.map Section.category).Nodup

variable {es : List Entry} {ss : List Section} {s : Section} {e : Entry} {c g : String}

/-! ## The sections of a taxonomy -/

/-- No section is empty. -/
theorem Section.entries_ne_nil (s : Section) : s.entries ≠ [] := by
  obtain ⟨group, hgroup⟩ := List.exists_mem_of_ne_nil _ s.nonempty
  obtain ⟨e, he⟩ := List.exists_mem_of_ne_nil _ (s.filled group hgroup)
  exact List.ne_nil_of_mem (List.mem_flatMap.mpr ⟨group, hgroup, he⟩)

/-- The entries of a section are in its category. -/
theorem Section.category_of_mem (h : e ∈ s.entries) : e.category = s.category := by
  obtain ⟨group, hgroup, he⟩ := List.mem_flatMap.mp h
  exact (s.placed group hgroup e he).1

/-- A section has entries of the groups that it names, and of no others. -/
theorem Section.mem_keys_groups_iff :
    g ∈ Keyed.keys s.groups ↔ ∃ e ∈ s.entries, e.group = g := by
  constructor
  · intro h
    obtain ⟨group, hgroup, rfl⟩ := List.mem_map.mp h
    obtain ⟨e, he⟩ := List.exists_mem_of_ne_nil _ (s.filled group hgroup)
    exact ⟨e, List.mem_flatMap.mpr ⟨group, hgroup, he⟩, (s.placed group hgroup e he).2⟩
  · intro h
    obtain ⟨e, he, rfl⟩ := h
    obtain ⟨group, hgroup, he⟩ := List.mem_flatMap.mp he
    rw [(s.placed group hgroup e he).2]
    exact List.mem_map_of_mem hgroup

/-- The groups under the sections are those of the entries. -/
theorem Sectioned.exists_group_iff (h : Sectioned es ss) :
    (∃ s ∈ ss, s.category = c ∧ g ∈ Keyed.keys s.groups) ↔
      ∃ e ∈ es, e.category = c ∧ e.group = g := by
  simp only [← h.entries_eq, List.mem_flatMap, Section.mem_keys_groups_iff]
  constructor
  · intro hgroup
    obtain ⟨s, hs, rfl, e, he, rfl⟩ := hgroup
    exact ⟨e, ⟨s, hs, he⟩, Section.category_of_mem he, rfl⟩
  · intro hentry
    obtain ⟨e, ⟨s, hs, he⟩, rfl, rfl⟩ := hentry
    exact ⟨s, hs, (Section.category_of_mem he).symm, e, he, rfl⟩

/-- The categories of the sections are those of the entries. -/
theorem Sectioned.mem_categories_iff (h : Sectioned es ss) :
    c ∈ ss.map Section.category ↔ ∃ e ∈ es, e.category = c := by
  constructor
  · intro hc
    obtain ⟨s, hs, rfl⟩ := List.mem_map.mp hc
    obtain ⟨e, he⟩ := List.exists_mem_of_ne_nil _ s.entries_ne_nil
    exact ⟨e, h.entries_eq ▸ List.mem_flatMap.mpr ⟨s, hs, he⟩, Section.category_of_mem he⟩
  · intro hentry
    obtain ⟨e, he, rfl⟩ := hentry
    obtain ⟨s, hs, hcategory, -⟩ := h.exists_group_iff.mpr ⟨e, he, rfl, rfl⟩
    exact hcategory ▸ List.mem_map_of_mem hs

/-- Leaving out the groups without entries leaves out no entry. -/
theorem flatMap_snd_filter (groups : List (String × List Entry)) :
    (groups.filter fun g => g.2 ≠ []).flatMap Prod.snd = groups.flatMap Prod.snd := by
  induction groups with
  | nil => rfl
  | cons group groups ih =>
      rw [List.filter_cons]
      by_cases hempty : group.2 = []
      · simpa [hempty] using ih
      · simpa [hempty] using ih

/-- A category with entries is a section. -/
theorem exists_section (category : String) (groups : OrderedMap (OrderedMap Label))
    (h : groupEntries category groups ≠ []) :
    ∃ s : Section, s.category = category ∧ s.entries = groupEntries category groups := by
  let named := groups.entries.map fun g => (g.1, labelEntries category g.1 g.2)
  have hnodup : (Keyed.keys named).Nodup := by
    have hnames : Keyed.keys named = Keyed.keys groups.entries := by
      rw [Keyed.keys, List.map_map]
      rfl
    rw [hnames]
    exact groups.nodup
  have hentries : (named.filter fun g => g.2 ≠ []).flatMap Prod.snd =
      groupEntries category groups := by
    rw [flatMap_snd_filter, List.flatMap_map]
    rfl
  refine ⟨⟨category, named.filter fun g => g.2 ≠ [], ?_, ?_, ?_, ?_⟩, rfl, hentries⟩
  · exact hnodup.sublist (List.filter_sublist.map _)
  · intro hnil
    rw [hnil] at hentries
    exact h hentries.symm
  · intro g hg
    exact of_decide_eq_true (List.mem_filter.mp hg).2
  · intro g hg e he
    obtain ⟨⟨group, labels⟩, -, rfl⟩ := List.mem_map.mp (List.mem_filter.mp hg).1
    obtain ⟨l, -, rfl⟩ := List.mem_map.mp he
    exact ⟨rfl, rfl⟩

/-- **Distinct categories are sections**, but for those without entries. -/
theorem exists_sectioned {named : List (String × OrderedMap (OrderedMap Label))}
    (hnodup : (Keyed.keys named).Nodup) :
    ∃ ss, Sectioned (named.flatMap fun x => groupEntries x.1 x.2) ss := by
  induction named with
  | nil => exact ⟨[], rfl, List.nodup_nil⟩
  | cons x named ih =>
      rw [Keyed.keys, List.map_cons, List.nodup_cons] at hnodup
      obtain ⟨ss, hss⟩ := ih hnodup.2
      by_cases hempty : groupEntries x.1 x.2 = []
      · -- a category without entries leaves no trace in the list
        refine ⟨ss, ?_, hss.nodup⟩
        rw [List.flatMap_cons, hempty, List.nil_append]
        exact hss.entries_eq
      · obtain ⟨s, hcategory, hentries⟩ := exists_section x.1 x.2 hempty
        refine ⟨s :: ss, ?_, List.nodup_cons.mpr ⟨?_, hss.nodup⟩⟩
        · rw [List.flatMap_cons, List.flatMap_cons, hentries, hss.entries_eq]
        · intro hmem
          obtain ⟨e, he, heq⟩ := hss.mem_categories_iff.mp hmem
          obtain ⟨y, hy, he⟩ := List.mem_flatMap.mp he
          rw [category_of_mem_groupEntries he, hcategory] at heq
          exact hnodup.1 (heq ▸ List.mem_map_of_mem (f := Prod.fst) hy)

/-- Selecting entries by their category is selecting sections. -/
theorem filter_flatMap_entries (p : String → Bool) (ss : List Section) :
    ((ss.flatMap Section.entries).filter fun e => p e.category) =
      (ss.filter fun s => p s.category).flatMap Section.entries := by
  induction ss with
  | nil => rfl
  | cons s ss ih =>
      have hcategory : ∀ e ∈ s.entries, p e.category = p s.category := fun e he =>
        congrArg p (Section.category_of_mem he)
      rw [List.flatMap_cons, List.filter_append, List.filter_congr hcategory, ih,
        List.filter_cons]
      cases p s.category <;> simp

/-- Entries that are chosen by their category are those of the chosen sections. -/
theorem Sectioned.filter (h : Sectioned es ss) (p : String → Bool) :
    Sectioned (es.filter fun e => p e.category) (ss.filter fun s => p s.category) where
  entries_eq := by rw [← h.entries_eq, filter_flatMap_entries]
  nodup := h.nodup.sublist (List.filter_sublist.map _)

/-! ## The outline of sections -/

/-- The lines of entries that stand from a position on, without headings. -/
def entryRows (position : Nat) (es : List Entry) : List OutlineRow :=
  (es.zipIdx position).map fun x => .entry x.2 x.1

/-- The lines of groups, each under its heading. -/
def groupRows (position : Nat) : List (String × List Entry) → List OutlineRow
  | [] => []
  | group :: groups =>
    .group group.1 ::
      (entryRows position group.2 ++ groupRows (position + group.2.length) groups)

/-- The lines of sections, each under its heading. -/
def sectionRows (position : Nat) : List Section → List OutlineRow
  | [] => []
  | s :: ss =>
    .category s.category ::
      (groupRows position s.groups ++ sectionRows (position + s.entries.length) ss)

theorem entryRows_cons (position : Nat) (e : Entry) (es : List Entry) :
    entryRows position (e :: es) = .entry position e :: entryRows (position + 1) es :=
  rfl

variable {last : Option (String × String)} {groups : List (String × List Entry)}

/-- The category and the group of the last entry, or those of before. -/
def placeAfter (last : Option (String × String)) (es : List Entry) : Option (String × String) :=
  es.foldl (fun _ e => some (e.category, e.group)) last

/-- The place after entries is that of one of them. -/
theorem exists_placeAfter_eq (last : Option (String × String)) (hne : es ≠ []) :
    ∃ e ∈ es, placeAfter last es = some (e.category, e.group) := by
  induction es using List.reverseRecOn with
  | nil => exact absurd rfl hne
  | append_singleton es e _ =>
      refine ⟨e, List.mem_append_right es (List.mem_singleton_self e), ?_⟩
      rw [placeAfter, List.foldl_concat]

/-- The place after entries of one group is that group. -/
theorem placeAfter_eq (last : Option (String × String)) (hne : es ≠ [])
    (hes : ∀ e ∈ es, e.category = c ∧ e.group = g) : placeAfter last es = some (c, g) := by
  obtain ⟨e, he, hplace⟩ := exists_placeAfter_eq last hne
  obtain ⟨rfl, rfl⟩ := hes e he
  exact hplace

/-- The outline goes on from the place and the position that the entries led to. -/
theorem outlineFrom_append (last : Option (String × String)) (position : Nat)
    (es rest : List Entry) :
    outlineFrom last position (es ++ rest) =
      outlineFrom last position es ++
        outlineFrom (placeAfter last es) (position + es.length) rest := by
  induction es generalizing last position with
  | nil => rfl
  | cons e es ih =>
      rw [List.cons_append, outlineFrom, outlineFrom, ih, List.append_assoc, List.length_cons,
        Nat.add_right_comm, Nat.add_assoc]
      rfl

/-- More entries of the same group follow without a heading. -/
theorem outlineFrom_same (position : Nat) (hes : ∀ e ∈ es, e.category = c ∧ e.group = g) :
    outlineFrom (some (c, g)) position es = entryRows position es := by
  induction es generalizing position with
  | nil => rfl
  | cons e es ih =>
      rw [List.forall_mem_cons] at hes
      obtain ⟨⟨rfl, rfl⟩, hes⟩ := hes
      rw [outlineFrom, ih (position + 1) hes, entryRows_cons]
      simp [outlineStep]

/-- Another group follows under its heading, and under that of its category if this is
another one, too. -/
theorem outlineFrom_group (position : Nat) (hother : last ≠ some (c, g)) (hne : es ≠ [])
    (hes : ∀ e ∈ es, e.category = c ∧ e.group = g) :
    outlineFrom last position es =
      (if last.map Prod.fst = some c then [] else [.category c]) ++
        .group g :: entryRows position es := by
  cases es with
  | nil => exact absurd rfl hne
  | cons e es =>
      rw [List.forall_mem_cons] at hes
      obtain ⟨⟨rfl, rfl⟩, hes⟩ := hes
      rw [outlineFrom, outlineFrom_same (position + 1) hes, entryRows_cons, outlineStep,
        if_neg hother, List.append_assoc, List.append_assoc]
      rfl

/-- Groups with other names than the last one follow under their headings. -/
theorem outlineFrom_groups (position : Nat) (hnodup : (Keyed.keys groups).Nodup)
    (hfilled : ∀ group ∈ groups, group.2 ≠ [])
    (hplaced : ∀ group ∈ groups, ∀ e ∈ group.2, e.category = c ∧ e.group = group.1)
    (hlast : last = some (c, g)) (hother : g ∉ Keyed.keys groups) :
    outlineFrom last position (groups.flatMap Prod.snd) = groupRows position groups := by
  induction groups generalizing last g position with
  | nil => rfl
  | cons group groups ih =>
      rw [List.forall_mem_cons] at hfilled hplaced
      rw [Keyed.keys, List.map_cons, List.nodup_cons] at hnodup
      rw [Keyed.keys, List.map_cons, List.mem_cons, not_or] at hother
      subst hlast
      -- the last group was of this category, so the names alone tell the two apart
      have hnew : some (c, g) ≠ some (c, group.1) := by simpa using hother.1
      have hplace := placeAfter_eq (some (c, g)) hfilled.1 hplaced.1
      rw [List.flatMap_cons, outlineFrom_append,
        outlineFrom_group position hnew hfilled.1 hplaced.1,
        ih _ hnodup.2 hfilled.2 hplaced.2 hplace hnodup.1]
      simp [groupRows]

/-- A section of another category follows under its heading, and its first group has one
whatever the name of the group before. -/
theorem outlineFrom_section (position : Nat) (hlast : last.map Prod.fst ≠ some s.category) :
    outlineFrom last position s.entries =
      .category s.category :: groupRows position s.groups := by
  obtain ⟨c, groups, hnodup, hnonempty, hfilled, hplaced⟩ := s
  cases groups with
  | nil => exact absurd rfl hnonempty
  | cons group groups =>
      rw [List.forall_mem_cons] at hfilled hplaced
      rw [Keyed.keys, List.map_cons, List.nodup_cons] at hnodup
      have hnew : last ≠ some (c, group.1) := by
        intro heq
        rw [heq] at hlast
        exact hlast rfl
      have hplace := placeAfter_eq last hfilled.1 hplaced.1
      rw [Section.entries, List.flatMap_cons, outlineFrom_append,
        outlineFrom_group position hnew hfilled.1 hplaced.1, if_neg hlast,
        outlineFrom_groups _ hnodup.2 hfilled.2 hplaced.2 hplace hnodup.1]
      simp [groupRows]

/-- **The outline of sections is their headings and rows.** -/
theorem outlineFrom_sections (position : Nat) (hnodup : (ss.map Section.category).Nodup)
    (hlast : ∀ s ∈ ss, last.map Prod.fst ≠ some s.category) :
    outlineFrom last position (ss.flatMap Section.entries) = sectionRows position ss := by
  induction ss generalizing last position with
  | nil => rfl
  | cons s ss ih =>
      rw [List.map_cons, List.nodup_cons] at hnodup
      rw [List.forall_mem_cons] at hlast
      obtain ⟨e, he, hplace⟩ := exists_placeAfter_eq last s.entries_ne_nil
      have hnext : ∀ s' ∈ ss,
          (placeAfter last s.entries).map Prod.fst ≠ some s'.category := by
        intro s' hs' heq
        have hsame : s.category = s'.category := by
          rw [hplace, Option.map_some, Section.category_of_mem he] at heq
          exact Option.some.inj heq
        exact hnodup.1 (hsame ▸ List.mem_map_of_mem hs')
      rw [List.flatMap_cons, outlineFrom_append, outlineFrom_section position hlast.1,
        ih _ hnodup.2 hnext]
      rfl

/-- **The outline of entries that fall into sections** is these sections under their
headings. -/
theorem Sectioned.outline_eq (h : Sectioned es ss) : outline es = sectionRows 0 ss := by
  rw [outline, ← h.entries_eq]
  exact outlineFrom_sections 0 h.nodup fun s _ => Option.some_ne_none s.category ∘ Eq.symm

end Taxonomy

end DefectCatalog
