import DefectCatalog.Browser.Detail
import DefectCatalog.Proofs.Taxonomy.Classify
import Mathlib.Algebra.GroupWithZero.Nat
import Mathlib.Algebra.Order.BigOperators.Group.List
import Mathlib.Algebra.Order.Group.Nat

/-!
# Flags in the detail of a bug

The detail shows flags in four sections: two categories, one group of a third,
and the flags that no entry describes.  A flag that is described, but nowhere in
these places, is in none of them; nothing on the screen tells that it is set
(`shows_of_mem_flags`).

What a section shows is found flag by flag, so taking a flag away takes away
what the sections found for it, and nothing else (`flags_clear`).
-/

namespace DefectCatalog

namespace Browser.Detail

open Screen Taxonomy

/-- The entries whose flags have a section. -/
def HasSection (e : Entry) : Prop :=
  e.category = repairActions ∨ e.category = repairPatterns ∨
    e.category = runtimeInformation ∧ e.group = automaticRepair

/-- A flag that the taxonomy describes, but only in places that have no section. -/
def Hides (t : Taxonomy) (key : String) : Prop :=
  (∃ e ∈ t.entries, e.key = key) ∧ ∀ e ∈ t.entries, e.key = key → ¬ HasSection e

/-- A text of a flag: the label of an entry, or the key itself if there is none. -/
def Names (t : Taxonomy) (key text : String) : Prop :=
  (∃ e ∈ t.entries, e.key = key ∧ e.label.display = text) ∨
    (∀ e ∈ t.entries, e.key ≠ key) ∧ text = key

/-- The line of a text in a section. -/
def itemLine (p : Palette) (text : String) : Line :=
  .ofSpans [⟨"  • ", p.labelStyle⟩, ⟨text, p.textStyle⟩]

/-- The record with a flag taken away. -/
def clear (r : Record) (key : String) : Record :=
  r.setField key (.bool false)

/-- What becomes of a flag of a record. -/
structure Shows (p : Palette) (t : Taxonomy) (r : Record) (key : String) : Prop where
  /-- It is in one of the record's groups. -/
  grouped : ∃ g ∈ t.classify r, ∃ f ∈ g.flags, f.key = key
  /-- A section shows it, unless it is hidden. -/
  shown : ¬ Hides t key →
    ∃ s ∈ sections p t r, ∃ text ∈ s.items, Names t key text ∧ itemLine p text ∈ lines p t r
  /-- A hidden flag, and no other, leaves no trace. -/
  traceless_iff : lines p t (clear r key) = lines p t r ↔ Hides t key

variable {p : Palette} {t : Taxonomy} {r : Record} {key : String}

/-! ## The lookups of the sections -/

/-- The text of a flag that no entry describes. -/
def unknownText? (t : Taxonomy) (key : String) : Option String :=
  if (t.find? key).isNone then some key else none

/-- How the sections look for a flag, in their order. -/
def lookups (t : Taxonomy) : List (String → Option String) :=
  [t.labelWithin? repairActions, t.labelWithin? repairPatterns, t.toolLabel?, unknownText? t]

/-- The unknown flags are those that are found by looking for no entry. -/
theorem unknownFlags_eq_filterMap (t : Taxonomy) (r : Record) :
    t.unknownFlags r = r.flags.filterMap (unknownText? t) := by
  rw [unknownFlags, ← List.filterMap_eq_filter]
  congr 1

/-- Every section shows the flags that its lookup finds. -/
theorem map_items_sections (p : Palette) (t : Taxonomy) (r : Record) :
    (sections p t r).map Section.items = (lookups t).map fun look => r.flags.filterMap look := by
  rw [sections, unknownFlags_eq_filterMap]
  rfl

/-- A category has a label for the keys of its entries. -/
theorem labelWithin?_isSome_iff {category : String} : (t.labelWithin? category key).isSome ↔
    ∃ e ∈ t.entries, e.category = category ∧ e.key = key := by
  rw [labelWithin?_eq, Option.isSome_map, List.find?_isSome]
  simp only [List.mem_filter, decide_eq_true_eq, and_assoc]

/-- A tool is one of the entries on automatic repair. -/
theorem toolLabel?_isSome_iff : (t.toolLabel? key).isSome ↔
    ∃ e ∈ t.entries, e.category = runtimeInformation ∧ e.group = automaticRepair ∧ e.key = key := by
  rw [toolLabel?_eq, Option.isSome_map, List.find?_isSome]
  simp only [List.mem_filter, decide_eq_true_eq, and_assoc]

/-- A flag is unknown if no entry has its key. -/
theorem unknownText?_isSome_iff : (unknownText? t key).isSome ↔ ∀ e ∈ t.entries, e.key ≠ key := by
  have hunknown : (unknownText? t key).isSome ↔ ¬ (t.find? key).isSome := by
    unfold unknownText?
    cases t.find? key <;> simp
  rw [hunknown, find?_isSome_iff]
  simp only [not_exists, not_and, ne_eq]

/-- **A flag is found unless it is hidden.** -/
theorem exists_lookup_iff : (∃ look ∈ lookups t, (look key).isSome) ↔ ¬ Hides t key := by
  simp only [lookups, List.mem_cons, List.not_mem_nil, or_false, exists_eq_or_imp, exists_eq_left,
    labelWithin?_isSome_iff, toolLabel?_isSome_iff, unknownText?_isSome_iff, Hides, HasSection]
  constructor
  · rintro (⟨e, he, hc, hk⟩ | ⟨e, he, hc, hk⟩ | ⟨e, he, hc, hg, hk⟩ | hunknown) ⟨⟨x, hx, hxk⟩, hnone⟩
    · exact hnone e he hk (Or.inl hc)
    · exact hnone e he hk (Or.inr (Or.inl hc))
    · exact hnone e he hk (Or.inr (Or.inr ⟨hc, hg⟩))
    · exact hunknown x hx hxk
  · intro h
    by_cases hknown : ∃ e ∈ t.entries, e.key = key
    · have hsome : ∃ e ∈ t.entries, e.key = key ∧ HasSection e := by
        by_contra hnone
        exact h ⟨hknown, fun e he hk hsection => hnone ⟨e, he, hk, hsection⟩⟩
      obtain ⟨e, he, hk, hc | hc | ⟨hc, hg⟩⟩ := hsome
      · exact Or.inl ⟨e, he, hc, hk⟩
      · exact Or.inr (Or.inl ⟨e, he, hc, hk⟩)
      · exact Or.inr (Or.inr (Or.inl ⟨e, he, hc, hg, hk⟩))
    · exact Or.inr (Or.inr (Or.inr fun e he hk => hknown ⟨e, he, hk⟩))

/-- What is found for a flag is one of its texts. -/
theorem names_of_lookup {look : String → Option String} (hlook : look ∈ lookups t) {text : String}
    (h : look key = some text) : Names t key text := by
  have hentry {entries : List Entry} (hsub : ∀ e ∈ entries, e ∈ t.entries)
      (hfind : (entries.find? fun e => e.key = key).map (fun e => e.label.display) = some text) :
      Names t key text := by
    obtain ⟨e, he, hdisplay⟩ := Option.map_eq_some_iff.mp hfind
    have hk : e.key = key := by simpa using List.find?_some he
    exact Or.inl ⟨e, hsub e (List.mem_of_find?_eq_some he), hk, hdisplay⟩
  simp only [lookups, List.mem_cons, List.not_mem_nil, or_false] at hlook
  rcases hlook with rfl | rfl | rfl | rfl
  · exact hentry (fun e he => List.mem_of_mem_filter he) (labelWithin?_eq .. ▸ h)
  · exact hentry (fun e he => List.mem_of_mem_filter he) (labelWithin?_eq .. ▸ h)
  · exact hentry (fun e he => List.mem_of_mem_filter (List.mem_of_mem_filter he))
      (toolLabel?_eq .. ▸ h)
  · have hunknown := unknownText?_isSome_iff.mp (Option.isSome_of_eq_some h)
    unfold unknownText? at h
    split at h
    · exact Or.inr ⟨hunknown, (Option.some.inj h).symm⟩
    · cases h

/-! ## The lines -/

/-- The items of a section have lines each. -/
theorem itemLine_mem_lines {s : Section} (hs : s ∈ sections p t r) {text : String}
    (htext : text ∈ s.items) : itemLine p text ∈ lines p t r := by
  have hsection : itemLine p text ∈ sectionLines p s := by
    rw [sectionLines, if_neg (by simpa using List.ne_nil_of_mem htext)]
    exact List.mem_cons_of_mem _ (List.mem_map_of_mem htext)
  have hall := List.mem_append_right
    (if (metrics r).isEmpty then [] else [metricsLine p (metrics r), .empty])
    (List.mem_flatMap.mpr ⟨s, hs, hsection⟩)
  unfold lines
  rw [if_neg (by simpa using List.ne_nil_of_mem hall)]
  exact hall

/-- The number of lines of items: one each, and a heading if there are any. -/
def lineCount (items : List String) : Nat :=
  items.length + min items.length 1

/-- A section has as many lines as are counted for its items. -/
theorem length_sectionLines (p : Palette) (s : Section) :
    (sectionLines p s).length = lineCount s.items := by
  unfold sectionLines lineCount
  cases s.items with
  | nil => rfl
  | cons item items => simp

/-- The sections have as many lines as are counted for the flags that their lookups find. -/
theorem length_flatMap_sections (p : Palette) (t : Taxonomy) (r : Record) :
    ((sections p t r).flatMap (sectionLines p)).length =
      ((lookups t).map fun look => lineCount (r.flags.filterMap look)).sum := by
  have hsizes := congrArg (List.map lineCount) (map_items_sections p t r)
  rw [List.map_map, List.map_map] at hsizes
  rw [List.length_flatMap]
  simp only [length_sectionLines]
  exact congrArg List.sum hsizes

/-- A line that stands in for none makes at least one. -/
theorem length_if_isEmpty {α : Type} (instead : α) (all : List α) :
    (if all.isEmpty then [instead] else all).length = max 1 all.length := by
  cases all with
  | nil => rfl
  | cons x xs => simp

/-- The lines of the sections come after those of the metrics; one line stands for none. -/
theorem length_lines (p : Palette) (t : Taxonomy) (r : Record) :
    (lines p t r).length = max 1 ((if (metrics r).isEmpty then 0 else 2) +
      ((lookups t).map fun look => lineCount (r.flags.filterMap look)).sum) := by
  have htop : (if (metrics r).isEmpty then [] else [metricsLine p (metrics r), .empty]).length =
      if (metrics r).isEmpty then 0 else 2 := by
    split <;> rfl
  rw [← length_flatMap_sections p, ← htop, ← List.length_append]
  exact length_if_isEmpty _ _

/-! ## Taking a flag away -/

/-- Taking a flag away changes the one member. -/
theorem split_entries_clear (hkey : key ∈ r.flags) :
    ∃ before after, r.fields.entries = before ++ (key, .bool true) :: after ∧
      (clear r key).fields.entries = before ++ (key, .bool false) :: after := by
  have hmem : (key, Json.Value.bool true) ∈ r.fields.entries := by
    obtain ⟨⟨k, v⟩, hmem, hv⟩ := List.mem_filterMap.mp hkey
    split at hv
    · next heq =>
        obtain rfl := Option.some.inj hv
        exact heq ▸ hmem
    · cases hv
  obtain ⟨before, after, hsplit⟩ := List.append_of_mem hmem
  have hnew : key ∉ Keyed.keys before := by
    have hnodup := r.fields.nodup
    rw [hsplit, Keyed.keys, List.map_append, List.nodup_append] at hnodup
    exact fun h => hnodup.2.2 _ h _ List.mem_cons_self rfl
  refine ⟨before, after, hsplit, ?_⟩
  have hput := Keyed.put_append_cons hnew (.bool true) (.bool false) after
  rw [← hsplit] at hput
  exact hput

/-- Clearing a flag takes it out of the flags, and leaves the others in place. -/
theorem flags_clear (hkey : key ∈ r.flags) :
    ∃ before after, r.flags = before ++ key :: after ∧ (clear r key).flags = before ++ after := by
  obtain ⟨before, after, hall, hcleared⟩ := split_entries_clear hkey
  rw [Record.flags, Record.flags, hall, hcleared, List.filterMap_append, List.filterMap_append]
  exact ⟨_, _, rfl, rfl⟩

/-- Clearing a flag changes no number. -/
theorem metrics_clear (hkey : key ∈ r.flags) : metrics (clear r key) = metrics r := by
  obtain ⟨before, after, hall, hcleared⟩ := split_entries_clear hkey
  rw [metrics, metrics, hall, hcleared, List.flatMap_append, List.flatMap_append]
  rfl

/-- A flag taken away takes along what was found for it. -/
theorem filterMap_clear (hkey : key ∈ r.flags) (look : String → Option String) :
    (look key = none → (clear r key).flags.filterMap look = r.flags.filterMap look) ∧
      (r.flags.filterMap look).length =
        ((clear r key).flags.filterMap look).length + if (look key).isSome then 1 else 0 := by
  obtain ⟨before, after, hall, hcleared⟩ := flags_clear hkey
  rw [hall, hcleared]
  cases hlook : look key with
  | none => simp [hlook]
  | some text => simp [hlook]; omega

/-- Clearing a flag makes no section longer. -/
theorem lineCount_clear_le (hkey : key ∈ r.flags) (look : String → Option String) :
    lineCount ((clear r key).flags.filterMap look) ≤ lineCount (r.flags.filterMap look) := by
  have hlength := (filterMap_clear hkey look).2
  unfold lineCount
  omega

/-- Clearing a flag makes every section shorter that found it. -/
theorem lineCount_clear_lt (hkey : key ∈ r.flags) {look : String → Option String}
    (hsome : (look key).isSome) :
    lineCount ((clear r key).flags.filterMap look) < lineCount (r.flags.filterMap look) := by
  have hlength := (filterMap_clear hkey look).2
  rw [if_pos hsome] at hlength
  unfold lineCount
  omega

/-- A flag that is found takes lines away with it. -/
theorem length_lines_clear_lt (hkey : key ∈ r.flags) (hfound : ¬ Hides t key) :
    (lines p t (clear r key)).length < (lines p t r).length := by
  obtain ⟨look, hlook, hsome⟩ := exists_lookup_iff.mpr hfound
  have hsum : ((lookups t).map fun look => lineCount ((clear r key).flags.filterMap look)).sum <
      ((lookups t).map fun look => lineCount (r.flags.filterMap look)).sum :=
    List.sum_lt_sum _ _ (fun look _ => lineCount_clear_le hkey look)
      ⟨look, hlook, lineCount_clear_lt hkey hsome⟩
  have htwo : 2 ≤ ((lookups t).map fun look => lineCount (r.flags.filterMap look)).sum := by
    have hone := lineCount_clear_lt hkey hsome
    have hle := List.single_le_sum (fun n _ => Nat.zero_le n) _
      (List.mem_map_of_mem (f := fun look => lineCount (r.flags.filterMap look)) hlook)
    unfold lineCount at hone hle ⊢
    omega
  rw [length_lines, length_lines, metrics_clear hkey]
  omega

/-- A flag that no lookup finds is in no section. -/
theorem sections_clear (hkey : key ∈ r.flags) (hhidden : Hides t key) :
    sections p t (clear r key) = sections p t r := by
  have hnone : ∀ look ∈ lookups t, (clear r key).flags.filterMap look = r.flags.filterMap look := by
    intro look hlook
    refine (filterMap_clear hkey look).1 ?_
    by_contra hsome
    exact exists_lookup_iff.mp ⟨look, hlook, Option.isSome_iff_ne_none.mpr hsome⟩ hhidden
  simp only [lookups, List.forall_mem_cons] at hnone
  obtain ⟨hactions, hpatterns, htools, hunknown, -⟩ := hnone
  rw [sections, sections, unknownFlags_eq_filterMap, unknownFlags_eq_filterMap, hactions,
    hpatterns, htools, hunknown]

/-! ## What becomes of a flag -/

/-- **What becomes of a flag.**  It is among the record's groups; a section shows
it unless all its entries lie elsewhere, and then nothing tells that it is set. -/
theorem shows_of_mem_flags (p : Palette) (t : Taxonomy) (r : Record) (hkey : key ∈ r.flags) :
    Shows p t r key where
  grouped := exists_flag_of_mem_flags hkey
  shown hfound := by
    obtain ⟨look, hlook, hsome⟩ := exists_lookup_iff.mpr hfound
    obtain ⟨text, htext⟩ := Option.isSome_iff_exists.mp hsome
    have hitems : r.flags.filterMap look ∈ (sections p t r).map Section.items := by
      rw [map_items_sections]
      exact List.mem_map_of_mem hlook
    obtain ⟨s, hs, hsitems⟩ := List.mem_map.mp hitems
    have hmem : text ∈ s.items := by
      rw [hsitems, List.mem_filterMap]
      exact ⟨key, hkey, htext⟩
    exact ⟨s, hs, text, hmem, names_of_lookup hlook htext, itemLine_mem_lines hs hmem⟩
  traceless_iff := by
    constructor
    · intro hlines
      by_contra hfound
      have hless := length_lines_clear_lt (p := p) hkey hfound
      rw [hlines] at hless
      exact Nat.lt_irrefl _ hless
    · intro hhidden
      unfold lines
      rw [sections_clear hkey hhidden, metrics_clear hkey]

theorem shows_unknown_flag :
    "crash" ∈ ((Record.new "Lang" "1").setField "crash" (.bool true)).flags ∧
      Shows .dark .empty ((Record.new "Lang" "1").setField "crash" (.bool true)) "crash" :=
  ⟨by decide, shows_of_mem_flags .dark .empty _ (by decide)⟩

/-- A flag of a category of its own is set and classified, and the detail tells
that there is no classification. -/
theorem classified_flag_without_section :
    let t := Taxonomy.empty.insert "Symptoms" "Crashes" "crash" ⟨"Crash", none⟩
    let r := (Record.new "Lang" "1").setField "crash" (.bool true)
    r.flags = ["crash"] ∧
      t.classify r = [⟨"Symptoms", [⟨"Crashes", "crash", "Crash"⟩]⟩] ∧
      (∀ s ∈ sections .dark t r, s.items = []) ∧
      lines .dark t r = [.styled "No classification" Palette.dark.mutedStyle] := by
  decide

end Browser.Detail

end DefectCatalog
