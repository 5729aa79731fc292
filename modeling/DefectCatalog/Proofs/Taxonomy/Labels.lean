import DefectCatalog.Proofs.Taxonomy.Places

/-!
# Labels as they are listed

Each lookup of a label goes its own way through the levels of a taxonomy, but all
of them answer with an entry of the listing: the first one of the key, the first
one of the key in a category, or the one at a place.  `answersAsListed` says so
for every key, also for one that several groups have.  Of the two names of a label
the long one is shown, unless it is absent or empty (`Label.display_eq_iff`).
-/

namespace DefectCatalog

/-- The text that a label shows: its long name exactly if there is one that is not empty. -/
inductive Label.Shows (l : Label) : String → Prop
  | fullname {full : String} (present : l.fullname = some full) (nonempty : full ≠ "") :
      l.Shows full
  | name (absent_or_empty : ∀ full, l.fullname = some full → full = "") : l.Shows l.name

/-- A label is shown as its display. -/
theorem Label.shows_display (l : Label) : l.Shows l.display := by
  cases hfull : l.fullname with
  | none =>
      have hname : l.display = l.name := by simp [display, hfull]
      rw [hname]
      exact .name (by simp [hfull])
  | some full =>
      by_cases hempty : full = ""
      · have hname : l.display = l.name := by simp [display, hfull, hempty]
        rw [hname]
        exact .name (by simp [hfull, hempty])
      · have hlong : l.display = full := by simp [display, hfull, hempty]
        rw [hlong]
        exact .fullname hfull hempty

/-- A label is shown as one text only. -/
theorem Label.display_eq_iff {l : Label} {text : String} : l.display = text ↔ l.Shows text := by
  constructor
  · intro h
    exact h ▸ l.shows_display
  · intro h
    cases h with
    | fullname hfull hnonempty => simp [display, hfull, hnonempty]
    | name habsent =>
        cases hfull : l.fullname with
        | none => simp [display, hfull]
        | some full => simp [display, hfull, habsent full hfull]

namespace Taxonomy

/-- The first entry that has a property. -/
def IsFirst (t : Taxonomy) (p : Entry → Prop) (e : Entry) : Prop :=
  p e ∧ ∃ before after, t.entries = before ++ e :: after ∧ ∀ d ∈ before, ¬ p d

/-- What the lookups of a key answer, read off the entries. -/
structure AnswersAsListed (t : Taxonomy) (key : String) : Prop where
  /-- The label of a key is that of its first entry. -/
  find?_eq_some_iff : ∀ label, t.find? key = some label ↔
    ∃ e, t.IsFirst (fun e => e.key = key) e ∧ e.label = label
  /-- A key has no label exactly if it has no entry. -/
  find?_eq_none_iff : t.find? key = none ↔ ∀ e ∈ t.entries, e.key ≠ key
  /-- The text for a key is that of its first entry. -/
  label_of_isFirst : ∀ e, t.IsFirst (fun e => e.key = key) e → t.label key = e.label.display
  /-- A key without an entry is its own text. -/
  label_of_unlisted : (∀ e ∈ t.entries, e.key ≠ key) → t.label key = key
  /-- Within a category, the text is that of the first entry there. -/
  labelWithin?_eq_some_iff : ∀ category text, t.labelWithin? category key = some text ↔
    ∃ e, t.IsFirst (fun e => e.category = category ∧ e.key = key) e ∧ e.label.display = text
  /-- The text for a repair tool is that of the entry at its place. -/
  toolLabel?_eq_some_iff : ∀ text, t.toolLabel? key = some text ↔
    ∃ e ∈ t.entries, e.place = ("Runtime Information", "Automatic Repair", key) ∧
      e.label.display = text
  /-- There is one entry at a place at most. -/
  place_unique : ∀ e ∈ t.entries, ∀ e' ∈ t.entries, e.place = e'.place → e = e'
  /-- The text of an entry is its long name, unless that is absent or empty. -/
  display_eq_iff : ∀ (label : Label) text, label.display = text ↔ label.Shows text
  /-- A key that only one category lists has the same text with and without the category. -/
  labelWithin?_eq_label : ∀ category, (∃ e ∈ t.entries, e.key = key) →
    (∀ e ∈ t.entries, e.key = key → e.category = category) →
      t.labelWithin? category key = some (t.label key)

variable {t : Taxonomy} {key : String} {e : Entry}

/-- What is found is the first entry of its kind. -/
theorem find?_entries_eq_some_iff {p : Entry → Prop} [DecidablePred p] :
    (t.entries.find? fun e => p e) = some e ↔ t.IsFirst p e := by
  simp [List.find?_eq_some_iff_append, IsFirst]

/-- A key has the label of its first entry. -/
theorem label_eq_of_find? (h : (t.entries.find? fun e => e.key = key) = some e) :
    t.label key = e.label.display := by
  rw [label, find?_eq, h]
  rfl

/-- Within a category a key has the label of its first entry there. -/
theorem labelWithin?_eq_find? (t : Taxonomy) (category key : String) :
    t.labelWithin? category key =
      (t.entries.find? fun e => e.category = category ∧ e.key = key).map fun e =>
        e.label.display := by
  rw [labelWithin?_eq, List.find?_filter]
  simp only [Bool.decide_and, Bool.decide_eq_true]

/-- If only one category lists a key, the first entry of the key is the first one there. -/
theorem find?_within_eq {category : String}
    (honly : ∀ e ∈ t.entries, e.key = key → e.category = category) :
    (t.entries.find? fun e => e.category = category ∧ e.key = key) =
      t.entries.find? fun e => e.key = key := by
  rw [← List.head?_filter, ← List.head?_filter]
  apply congrArg List.head?
  apply List.filter_congr
  intro e he
  by_cases hkey : e.key = key
  · simp [hkey, honly e he hkey]
  · simp [hkey]

/-- A tool has the label of its place. -/
theorem toolLabel?_eq_labelAt? (t : Taxonomy) (key : String) :
    t.toolLabel? key =
      (t.labelAt? (runtimeInformation, automaticRepair, key)).map Label.display := by
  simp only [toolLabel?, labelAt?, Option.bind_eq_bind, Option.map_eq_bind, Option.bind_assoc]
  rfl

/-- **The lookups agree with the listing**, whatever the taxonomy and the key. -/
theorem answersAsListed (t : Taxonomy) (key : String) : t.AnswersAsListed key where
  find?_eq_some_iff label := by
    rw [find?_eq, Option.map_eq_some_iff]
    simp only [find?_entries_eq_some_iff]
  find?_eq_none_iff := by
    rw [find?_eq, Option.map_eq_none_iff, List.find?_eq_none]
    simp only [decide_eq_true_eq, ne_eq]
  label_of_isFirst e he := label_eq_of_find? (find?_entries_eq_some_iff.mpr he)
  label_of_unlisted hnone := by
    have hfind : (t.entries.find? fun e => e.key = key) = none := by
      simpa [List.find?_eq_none] using hnone
    rw [label, find?_eq, hfind]
    rfl
  labelWithin?_eq_some_iff category text := by
    rw [labelWithin?_eq_find?, Option.map_eq_some_iff]
    simp only [find?_entries_eq_some_iff]
  toolLabel?_eq_some_iff text := by
    rw [toolLabel?_eq_labelAt?, Option.map_eq_some_iff]
    constructor
    · intro h
      obtain ⟨label, hlabel, htext⟩ := h
      exact ⟨⟨_, _, key, label⟩, mem_entries_iff.mpr hlabel, rfl, htext⟩
    · intro h
      obtain ⟨e, he, hplace, htext⟩ := h
      rw [mem_entries_iff, hplace] at he
      exact ⟨e.label, he, htext⟩
  place_unique e he e' he' h := eq_of_place_eq he he' h
  display_eq_iff label text := Label.display_eq_iff
  labelWithin?_eq_label category hsome honly := by
    have hfound : (t.entries.find? fun e => e.key = key).isSome := by
      simpa [List.find?_isSome] using hsome
    obtain ⟨e, he⟩ := Option.isSome_iff_exists.mp hfound
    rw [labelWithin?_eq_find?, find?_within_eq honly, he, label_eq_of_find? he]
    rfl

end Taxonomy

end DefectCatalog
