import DefectCatalog.Proofs.Json.Printed
import DefectCatalog.Proofs.Taxonomy.Classify
import DefectCatalog.Proofs.Taxonomy.Labels
import DefectCatalog.Report

/-!
# The texts that reports are made of

The strings of records, taxonomies, listings and options.  What a report shows of a record
or of a taxonomy is one of their strings, or it holds no control characters; so a control
character that none of them holds is in no field (`Record.lacks_textOf`), no label
(`Taxonomy.lacks_label`) and no classification (`Taxonomy.lacks_classify`).
-/

namespace DefectCatalog

open Text (Lacks IsAsciiControl)

variable {k : Char}

/-! ## Values -/

namespace Json

mutual

/-- The strings of a value, with the keys of its members. -/
def Value.strings : Value → List String
  | .null | .bool _ | .number _ => []
  | .string s => [s]
  | .array items => itemStrings items
  | .object members => memberStrings members

/-- The strings of items. -/
def itemStrings : List Value → List String
  | [] => []
  | v :: rest => v.strings ++ itemStrings rest

/-- The strings of members, with their keys. -/
def memberStrings : List (String × Value) → List String
  | [] => []
  | (key, v) :: rest => key :: v.strings ++ memberStrings rest

end

/-- The names of members and the texts of their values are texts of the object. -/
theorem mem_memberStrings {members : List (String × Value)} {m : String × Value}
    (hm : m ∈ members) : m.1 ∈ memberStrings members ∧ m.2.strings ⊆ memberStrings members := by
  induction members with
  | nil => cases hm
  | cons first rest ih =>
      obtain ⟨key, v⟩ := first
      rw [memberStrings]
      rcases List.mem_cons.mp hm with rfl | hm
      · exact ⟨List.mem_cons_self, fun s hs => List.mem_cons_of_mem _ (List.mem_append_left _ hs)⟩
      · obtain ⟨hkey, hv⟩ := ih hm
        exact ⟨List.mem_cons_of_mem _ (List.mem_append_right _ hkey), fun s hs =>
          List.mem_cons_of_mem _ (List.mem_append_right _ (hv hs))⟩

end Json

/-! ## Records -/

namespace Record

variable {r : Record}

/-- The strings of a record. -/
def texts (r : Record) : List String :=
  r.project :: r.commit :: r.patch :: Json.memberStrings r.fields.entries

/-- What a path leads to has texts of the value. -/
theorem strings_descend {v w : Json.Value} {path : List String} (h : descend v path = some w) :
    w.strings ⊆ v.strings := by
  fun_induction descend v path with
  | case1 v =>
      cases h
      exact fun _ hs => hs
  | case2 members segment rest u hu ih =>
      exact fun s hs => (Json.mem_memberStrings (Keyed.mem_of_lookup? hu)).2 (ih h hs)
  | case3 => cases h
  | case4 => cases h

/-- The names and values of the fields are texts of the record. -/
theorem memberStrings_subset_texts : Json.memberStrings r.fields.entries ⊆ r.texts := fun _ hs =>
  List.mem_cons_of_mem _ (List.mem_cons_of_mem _ (List.mem_cons_of_mem _ hs))

/-- Project, commit and patch are texts of the record. -/
theorem lacks_identity (hr : ∀ s ∈ r.texts, Lacks k s) :
    Lacks k r.project ∧ Lacks k r.commit ∧ Lacks k r.patch :=
  ⟨hr _ List.mem_cons_self, hr _ (List.mem_cons_of_mem _ List.mem_cons_self),
    hr _ (List.mem_cons_of_mem _ (List.mem_cons_of_mem _ List.mem_cons_self))⟩

/-- A field that is shown as a text is one of the record. -/
theorem mem_texts_of_field {path s : String} (h : r.field path = .text s) : s ∈ r.texts := by
  unfold field at h
  split at h
  · cases h
    exact List.mem_cons_self
  split at h
  · cases h
    exact List.mem_cons_of_mem _ List.mem_cons_self
  split at h
  · cases h
    exact List.mem_cons_of_mem _ (List.mem_cons_of_mem _ List.mem_cons_self)
  split at h
  · cases h
  split at h
  · cases h
  · next v hv =>
      split at h
      · next w hw =>
          have hs : s ∈ w.strings := by
            cases w with
            | string s' =>
                cases h
                exact List.mem_singleton_self s
            | _ => cases h
          have hv := (Json.mem_memberStrings (OrderedMap.mem_entries_iff.mpr hv)).2
          exact memberStrings_subset_texts (hv (strings_descend hw hs))
      · cases h

/-- The flags of a record are texts of the record. -/
theorem mem_texts_of_mem_flags {key : String} (h : key ∈ r.flags) : key ∈ r.texts := by
  obtain ⟨e, he, hkey⟩ := List.mem_filterMap.mp h
  have htrue : e.1 = key := by
    split at hkey
    · exact Option.some.inj hkey
    · cases hkey
  exact memberStrings_subset_texts (htrue ▸ (Json.mem_memberStrings he).1)

end Record

/-- A number with two places is written in printed characters. -/
theorem Binary64.lacks_twoPlaces (hk : IsAsciiControl k) (x : Binary64) :
    Lacks k x.twoPlaces := by
  have hdigits : ∀ n, Lacks k (String.ofList (Nat.toDigits 10 n)) := fun n =>
    Text.lacks_repr hk n
  have hzeros : ∀ n, Lacks k (Layout.zeros n) := fun n =>
    Text.lacks_repeated (hk.ne (by decide)) n
  have hsign : Lacks k (if x.negative then "-" else "") := by
    split <;> exact hk.lacks (by decide)
  have hpoint : Lacks k "." := hk.lacks (by decide)
  unfold twoPlaces Layout.digits
  simp only [Text.lacks_append]
  exact ⟨⟨⟨⟨hsign, hdigits _⟩, hpoint⟩, hzeros _⟩, hdigits _⟩

/-- A field is shown without control characters unless it is a text. -/
theorem Datum.lacks_display (hk : IsAsciiControl k) {d : Datum} (h : ∀ s, d = .text s → Lacks k s) :
    Lacks k d.display := by
  cases d with
  | bool b => cases b <;> exact hk.lacks (by decide)
  | number x =>
      rw [display]
      split
      · exact Json.Number.lacks_text hk (.integer x.truncate)
      · exact Binary64.lacks_twoPlaces hk x
  | text s => exact h s rfl
  | missing => exact hk.lacks (by decide)

/-- The text of a record in a column has the characters of the record's texts. -/
theorem Record.lacks_textOf (hk : IsAsciiControl k) {r : Record} (hr : ∀ s ∈ r.texts, Lacks k s)
    (c : Column) : Lacks k (c.textOf r) :=
  Datum.lacks_display hk fun s hs => hr s (mem_texts_of_field hs)

/-! ## Taxonomies -/

/-- The strings of a label. -/
def Label.texts (l : Label) : List String :=
  l.name :: l.fullname.toList

/-- What a label is shown as is one of its texts. -/
theorem Label.display_mem_texts (l : Label) : l.display ∈ l.texts := by
  unfold Label.display Label.texts
  cases l.fullname with
  | none => exact List.mem_cons_self
  | some full =>
      dsimp only
      split
      · exact List.mem_cons_self
      · exact List.mem_cons_of_mem _ (List.mem_singleton_self full)

namespace Taxonomy

variable {t : Taxonomy} {r : Record}

/-- The strings of an entry. -/
def Entry.texts (e : Entry) : List String :=
  e.category :: e.group :: e.key :: e.label.texts

/-- The strings of a taxonomy. -/
def texts (t : Taxonomy) : List String :=
  t.entries.flatMap Entry.texts

/-- What is shown of an entry. -/
theorem lacks_entry (ht : ∀ s ∈ t.texts, Lacks k s) {e : Entry} (he : e ∈ t.entries) :
    Lacks k e.category ∧ Lacks k e.key ∧ Lacks k e.label.display := by
  have hentry : ∀ s ∈ e.texts, Lacks k s := fun s hs =>
    ht s (List.mem_flatMap.mpr ⟨e, he, hs⟩)
  refine ⟨hentry _ List.mem_cons_self, hentry _ ?_, hentry _ ?_⟩
  · exact List.mem_cons_of_mem _ (List.mem_cons_of_mem _ List.mem_cons_self)
  · exact List.mem_cons_of_mem _ (List.mem_cons_of_mem _ (List.mem_cons_of_mem _
      e.label.display_mem_texts))

/-- A key is shown as a text of the taxonomy, or as itself. -/
theorem lacks_label (ht : ∀ s ∈ t.texts, Lacks k s) {key : String} (hkey : Lacks k key) :
    Lacks k (t.label key) := by
  rw [label, find?_eq]
  cases hfind : t.entries.find? fun e => e.key = key with
  | none => exact hkey
  | some e =>
      have he : e ∈ t.entries := List.mem_of_find?_eq_some hfind
      exact (lacks_entry ht he).2.2

/-- What a group of a record's flags shows. -/
theorem lacks_classify (hk : IsAsciiControl k) (ht : ∀ s ∈ t.texts, Lacks k s)
    (hr : ∀ s ∈ r.texts, Lacks k s) : ∀ g ∈ t.classify r,
      Lacks k g.category ∧ ∀ f ∈ g.flags, Lacks k f.key ∧ Lacks k f.label := by
  intro g hg
  rcases mem_classify.mp hg with hknown | ⟨-, rfl⟩
  · obtain ⟨-, hflags, hne⟩ := mem_gather_filter.mp hknown
    rw [hflags] at hne ⊢
    obtain ⟨f, hf⟩ := List.exists_mem_of_ne_nil _ hne
    obtain ⟨e, he, hcategory, -⟩ := mem_flagsIn.mp hf
    refine ⟨hcategory ▸ (lacks_entry ht he).1, fun f hf => ?_⟩
    obtain ⟨e, he, -, -, rfl⟩ := mem_flagsIn.mp hf
    exact (lacks_entry ht he).2
  · refine ⟨hk.lacks (s := unclassified) (by decide), fun f hf => ?_⟩
    obtain ⟨key, hkey, rfl⟩ := List.mem_map.mp hf
    have hlacks := hr key (Record.mem_texts_of_mem_flags (mem_unknownFlags.mp hkey).1)
    exact ⟨hlacks, hlacks⟩

end Taxonomy

end DefectCatalog
