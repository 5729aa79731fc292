import DefectCatalog.Proofs.Taxonomy.Sections

/-!
# The headings of an outline

Whatever the entries are, the nearest headings before an entry are those of its category
and its group, since a heading is written at every change (`entriesUnder_outlineFrom`).
That none is written twice needs the entries to stand together: in the outline of sections
every category and every group of a category has one heading (`Sectioned.headed_outline`).
-/

namespace DefectCatalog

namespace Taxonomy

variable {es : List Entry} {ss : List Section} {g : String}

/-- The entries among lines, each with the names in the nearest headings before it. -/
def entriesUnder (category? group? : Option String) :
    List OutlineRow → List (Option String × Option String × OutlineRow)
  | [] => []
  | .category name :: rows => entriesUnder (some name) group? rows
  | .group name :: rows => entriesUnder category? (some name) rows
  | .entry i e :: rows => (category?, group?, .entry i e) :: entriesUnder category? group? rows

/-- The groups that are named in headings, each with the category in the nearest heading
before it. -/
def groupHeadings (category? : Option String) : List OutlineRow → List (Option String × String)
  | [] => []
  | .category name :: rows => groupHeadings (some name) rows
  | .group name :: rows => (category?, name) :: groupHeadings category? rows
  | .entry .. :: rows => groupHeadings category? rows

/-- Lines are entries under headings. -/
structure Headed (es : List Entry) (rows : List OutlineRow) : Prop where
  /-- Without the headings the lines are the entries in order, each with its position, and
  the nearest headings before an entry are its category and its group. -/
  entries_eq : entriesUnder none none rows =
    es.mapIdx fun i e => (some e.category, some e.group, .entry i e)
  /-- A category with entries has one heading, and no other has any. -/
  category_once : ∀ c, rows.count (.category c) = if ∃ e ∈ es, e.category = c then 1 else 0
  /-- A group of a category has one heading if it has entries there, and else none. -/
  group_once : ∀ category? g, (groupHeadings none rows).count (category?, g) =
    if ∃ e ∈ es, some e.category = category? ∧ e.group = g then 1 else 0

/-! ## Every entry under its headings -/

/-- Headings are written where the category or the group changes, so the nearest ones are
always those of the entry. -/
theorem entriesUnder_outlineFrom (last : Option (String × String)) (position : Nat)
    (es : List Entry) :
    entriesUnder (last.map Prod.fst) (last.map Prod.snd) (outlineFrom last position es) =
      (es.zipIdx position).map fun x => (some x.1.category, some x.1.group, .entry x.2 x.1) := by
  induction es generalizing last position with
  | nil => rfl
  | cons e es ih =>
      have hrest := ih (some (e.category, e.group)) (position + 1)
      rw [outlineFrom, outlineStep, List.zipIdx_cons, List.map_cons, ← hrest]
      by_cases hcategory : last.map Prod.fst = some e.category
      · by_cases hplace : last = some (e.category, e.group)
        · simp [hplace, entriesUnder]
        · simp [hcategory, hplace, entriesUnder]
      · have hplace : last ≠ some (e.category, e.group) := by
          intro heq
          rw [heq] at hcategory
          exact hcategory rfl
        simp [hcategory, hplace, entriesUnder]

/-- Whether a line is an entry. -/
def isEntry : OutlineRow → Bool
  | .entry .. => true
  | _ => false

/-- The entries under headings are all entries. -/
theorem map_entriesUnder (category? group? : Option String) (rows : List OutlineRow) :
    (entriesUnder category? group? rows).map (fun x => x.2.2) = rows.filter isEntry := by
  induction rows generalizing category? group? with
  | nil => rfl
  | cons row rows ih =>
      cases row with
      | category name => exact ih (some name) group?
      | group name => exact ih category? (some name)
      | entry i e => exact congrArg (.entry i e :: ·) (ih category? group?)

/-- Without its headings the outline is the entries, each with its position. -/
theorem filter_isEntry_outline (es : List Entry) :
    (outline es).filter isEntry = entryRows 0 es := by
  rw [← map_entriesUnder none none, outline]
  exact (congrArg _ (entriesUnder_outlineFrom none 0 es)).trans List.map_map

/-! ## Every heading once -/

/-- Entries add no heading of a group. -/
theorem groupHeadings_entryRows (category? : Option String) (position : Nat) (es : List Entry)
    (rows : List OutlineRow) :
    groupHeadings category? (entryRows position es ++ rows) = groupHeadings category? rows := by
  induction es generalizing position with
  | nil => rfl
  | cons e es ih => exact ih (position + 1)

/-- Groups add a heading each. -/
theorem groupHeadings_groupRows (category? : Option String) (position : Nat)
    (groups : List (String × List Entry)) (rows : List OutlineRow) :
    groupHeadings category? (groupRows position groups ++ rows) =
      (Keyed.keys groups).map (category?, ·) ++ groupHeadings category? rows := by
  induction groups generalizing position with
  | nil => rfl
  | cons group groups ih =>
      rw [groupRows, List.cons_append, List.append_assoc, groupHeadings,
        groupHeadings_entryRows, ih]
      rfl

/-- The headings of the groups of a section. -/
def Section.groupHeadings (s : Section) : List (Option String × String) :=
  (Keyed.keys s.groups).map (some s.category, ·)

/-- The headings of groups are those of the sections. -/
theorem groupHeadings_sectionRows (category? : Option String) (position : Nat)
    (ss : List Section) :
    groupHeadings category? (sectionRows position ss) = ss.flatMap Section.groupHeadings := by
  induction ss generalizing category? position with
  | nil => rfl
  | cons s ss ih =>
      rw [sectionRows, groupHeadings, groupHeadings_groupRows, ih, List.flatMap_cons]
      rfl

/-- Groups add no heading of a category. -/
theorem count_category_groupRows (c : String) (position : Nat)
    (groups : List (String × List Entry)) :
    (groupRows position groups).count (.category c) = 0 := by
  induction groups generalizing position with
  | nil => rfl
  | cons group groups ih =>
      have hentries : (entryRows position group.2).count (.category c) = 0 := by
        rw [List.count_eq_zero]
        simp [entryRows]
      rw [groupRows, List.count_cons_of_ne (by simp), List.count_append, hentries, ih]

/-- There is a heading of a category for each section. -/
theorem count_category_sectionRows (c : String) (position : Nat) (ss : List Section) :
    (sectionRows position ss).count (.category c) = (ss.map Section.category).count c := by
  induction ss generalizing position with
  | nil => rfl
  | cons s ss ih =>
      rw [sectionRows, List.map_cons, List.count_cons, List.count_cons, List.count_append,
        count_category_groupRows, ih, Nat.zero_add]
      simp

/-- No group has two headings. -/
theorem Sectioned.nodup_groupHeadings (h : Sectioned es ss) :
    (ss.flatMap Section.groupHeadings).Nodup := by
  rw [List.nodup_flatMap]
  refine ⟨?_, ?_⟩
  · intro s _
    exact s.nodup.map fun g g' heq => congrArg Prod.snd heq
  · refine (List.pairwise_map.mp h.nodup).imp ?_
    intro s s' hne x hx hx'
    obtain ⟨g, -, rfl⟩ := List.mem_map.mp hx
    obtain ⟨g', -, heq⟩ := List.mem_map.mp hx'
    exact hne (Option.some.inj (congrArg Prod.fst heq)).symm

/-- The groups with a heading are those of the entries. -/
theorem Sectioned.mem_groupHeadings_iff (h : Sectioned es ss) {category? : Option String} :
    (category?, g) ∈ ss.flatMap Section.groupHeadings ↔
      ∃ e ∈ es, some e.category = category? ∧ e.group = g := by
  simp only [List.mem_flatMap, Section.groupHeadings, List.mem_map, Prod.mk.injEq]
  constructor
  · intro hheading
    obtain ⟨s, hs, g, hg, rfl, rfl⟩ := hheading
    obtain ⟨e, he, hcategory, hgroup⟩ := h.exists_group_iff.mp ⟨s, hs, rfl, hg⟩
    exact ⟨e, he, congrArg some hcategory, hgroup⟩
  · intro hentry
    obtain ⟨e, he, rfl, rfl⟩ := hentry
    obtain ⟨s, hs, hcategory, hg⟩ := h.exists_group_iff.mpr ⟨e, he, rfl, rfl⟩
    exact ⟨s, hs, e.group, hg, congrArg some hcategory, rfl⟩

/-- **The outline of sections puts every entry under its headings**, and writes each heading
once. -/
theorem Sectioned.headed_outline (h : Sectioned es ss) : Headed es (outline es) where
  entries_eq := by
    rw [List.mapIdx_eq_zipIdx_map]
    exact entriesUnder_outlineFrom none 0 es
  category_once c := by
    rw [h.outline_eq, count_category_sectionRows, h.nodup.count]
    simp only [h.mem_categories_iff]
  group_once category? g := by
    rw [h.outline_eq, groupHeadings_sectionRows, h.nodup_groupHeadings.count]
    simp only [h.mem_groupHeadings_iff]

/-- A group has its own heading although the one before it, in another category, has the
same name. -/
example : outline [⟨"Repair", "Loop", "add", {}⟩, ⟨"Pattern", "Loop", "wrap", {}⟩] =
    [.category "Repair", .group "Loop", .entry 0 ⟨"Repair", "Loop", "add", {}⟩,
      .category "Pattern", .group "Loop", .entry 1 ⟨"Pattern", "Loop", "wrap", {}⟩] := by
  decide

end Taxonomy

end DefectCatalog
