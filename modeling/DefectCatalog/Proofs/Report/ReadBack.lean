import DefectCatalog.Decimal.Word
import DefectCatalog.Proofs.Document.Records
import DefectCatalog.Proofs.Json.ReadBack
import DefectCatalog.Proofs.Taxonomy.Classify
import DefectCatalog.Report

/-!
# Reports read back

The text of a structured report is JSON.  What a reader gets from it is the report
with one member of each name, the last one (`member?_settled`), and with the
numbers that are read from the texts of its numbers (`member?_reread`).  So the
names matter that a bug list gives to the fields of its records: they stand in one
object with the members of the report.  A report gives a record back as long as no
field takes the place of a member of the report (`gives_beside_iff`) and the
numbers in its fields come back (`ComesBack`), and a listing has to have room for
one more container around each record (`HasRoom`).
-/

namespace DefectCatalog

open Json (Value)

/-- What a reader finds under a name is the last member of that name. -/
theorem member?_settled (members : List (String × Value)) (k : String) :
    (Value.object members).settled.member? k = (Keyed.last? members k).map Value.settled := by
  rw [Value.settled, Value.member?, Keyed.lookup?_putAll, Json.settledMembers_eq_map,
    Keyed.last?_map]
  exact Option.or_none

/-- In a settled object of readable members a key has the last value that is written for it. -/
theorem member?_settled_of_readable {members : List (String × Value)} {n : Nat}
    (h : ∀ m ∈ members, m.2.Readable n) (k : String) :
    (Value.object members).settled.member? k = Keyed.last? members k := by
  rw [member?_settled]
  cases hlast : Keyed.last? members k with
  | none => rfl
  | some v =>
      have hmem := List.mem_reverse.mp (Keyed.mem_of_lookup? hlast)
      exact congrArg some (h _ hmem).distinct.settled_eq

/-- What a reader finds under a name is read from the text of the member. -/
theorem member?_reread (members : List (String × Value)) (k : String) :
    (Value.object members).reread.settled.member? k =
      (Keyed.last? members k).map fun v => v.reread.settled := by
  rw [Value.reread_object, member?_settled, Keyed.last?_map, Option.map_map]
  rfl

/-- Reading an object back changes the values of its members, and not which one a key has. -/
theorem member?_reread_of_readable {members : List (String × Value)} {n : Nat}
    (h : ∀ m ∈ members, m.2.Readable n) (k : String) :
    (Value.object members).reread.settled.member? k =
      ((Value.object members).settled.member? k).map Value.reread := by
  rw [member?_reread, member?_settled_of_readable h]
  cases hlast : Keyed.last? members k with
  | none => rfl
  | some v =>
      have hmem := List.mem_reverse.mp (Keyed.mem_of_lookup? hlast)
      exact congrArg some (h _ hmem).distinct.reread.settled_eq

/-- A report is read back settled and with its numbers reread, unless it nests too deep. -/
theorem read?_jsonText {v : Value} (hv : v.Sound) (pretty : Bool) :
    Json.read? (ReportKind.jsonText pretty v) =
      if v.depth ≤ Json.maxDepth then some v.reread.settled else none := by
  cases pretty with
  | true => exact Json.read?_pretty hv
  | false => exact Json.read?_compact hv

namespace Report

/-! ## The records that are shown -/

/-- A limit shows the first records. -/
theorem Listing.shown_prefix (l : Listing) (o : Options) : l.shown o <+: l.records := by
  unfold Listing.shown
  split
  · exact List.take_prefix _ _
  · exact List.prefix_rfl

/-- As many records are shown as the limit allows and the listing has. -/
theorem Listing.length_shown (l : Listing) (o : Options) :
    (l.shown o).length =
      match o.limit with
      | some n => min n l.records.length
      | none => l.records.length := by
  unfold Listing.shown
  cases o.limit with
  | some n => exact List.length_take
  | none => rfl

theorem Listing.mem_of_mem_shown {l : Listing} {o : Options} {r : Record} (h : r ∈ l.shown o) :
    r ∈ l.records :=
  (l.shown_prefix o).subset h

/-- A shown record stands where it stands in the listing. -/
theorem Listing.getElem?_of_getElem?_shown {l : Listing} {o : Options} {i : Nat} {r : Record}
    (h : (l.shown o)[i]? = some r) : l.records[i]? = some r := by
  obtain ⟨hi, rfl⟩ := List.getElem?_eq_some_iff.mp h
  exact List.prefix_iff_getElem?.mp (l.shown_prefix o) i hi

end Report

namespace Report.Structured

variable {r : Record} {n : Nat}

/-! ## The parts of a report -/

/-- A list of texts nests one deep. -/
theorem readable_texts (ss : List String) : (texts ss).Readable (n + 1) := by
  refine .array fun v hv => ?_
  obtain ⟨s, -, rfl⟩ := List.mem_map.mp hv
  exact .string s

/-- A flag with its label nests one deep. -/
theorem readable_labelled (key label : String) : (labelled key label).Readable (n + 1) := by
  refine .object (by simp [Keyed.keys]) ?_
  simp only [List.forall_mem_cons]
  exact ⟨.string key, .string label, List.forall_mem_nil _⟩

/-- The note on the tool nests one deep. -/
theorem readable_tool : tool.Readable (n + 1) := by
  refine .object (by decide) ?_
  simp only [List.forall_mem_cons]
  exact ⟨.string _, .string _, List.forall_mem_nil _⟩

/-- A number of records can be read as far as it fits into 64 bits. -/
theorem readable_count {m : Nat} (hm : m ≤ Decimal.wordLimit) : (count m).Readable n := by
  refine .number ⟨?_, ?_⟩
  · exact Int.le_trans (by decide) (Int.natCast_nonneg m)
  · exact Int.ofNat_le.mpr hm

/-- The labels of the flags of a group. -/
def labelsOf (g : Taxonomy.CategoryFlags) : Value :=
  .array (g.flags.map fun f => labelled f.key f.label)

/-- The groups of flags are put in by their categories, so that of equal ones the last stays. -/
theorem labels_eq_putAll (t : Taxonomy) (r : Record) :
    labels t r = Keyed.putAll [] ((t.classify r).map fun g => (g.category, labelsOf g)) := by
  rw [labels, Keyed.putAll, List.foldl_map]
  rfl

/-- The flags of a group nest two deep. -/
theorem readable_labelsOf (g : Taxonomy.CategoryFlags) : (labelsOf g).Readable (n + 2) := by
  refine .array fun v hv => ?_
  obtain ⟨f, -, rfl⟩ := List.mem_map.mp hv
  exact readable_labelled f.key f.label

/-- The groups of flags nest three deep, and no category is there twice. -/
theorem readable_labels (t : Taxonomy) (r : Record) :
    (Value.object (labels t r)).Readable (n + 3) := by
  rw [labels_eq_putAll]
  have hempty : (Keyed.keys ([] : List (String × Value))).Nodup := List.nodup_nil
  refine .object (Keyed.nodup_keys_putAll hempty _) fun m hm => ?_
  rcases Keyed.mem_putAll hm with hm | hm
  · cases hm
  · obtain ⟨g, -, rfl⟩ := List.mem_map.mp hm
    exact readable_labelsOf g

/-! ## Parts without numbers that could be read as others -/

/-- A list of texts holds no number. -/
theorem exact_texts (ss : List String) : (texts ss).Exact :=
  .array (List.forall_mem_map.mpr fun s _ => .string s)

/-- A flag with its label holds no number. -/
theorem exact_labelled (key label : String) : (labelled key label).Exact := by
  refine .object ?_
  simp only [List.forall_mem_cons]
  exact ⟨.string key, .string label, List.forall_mem_nil _⟩

/-- The note on the tool holds no number. -/
theorem exact_tool : tool.Exact := by
  refine .object ?_
  simp only [List.forall_mem_cons]
  exact ⟨.string _, .string _, List.forall_mem_nil _⟩

/-- Integers come back. -/
theorem exact_count {m : Nat} (hm : m ≤ Decimal.wordLimit) : (count m).Exact := by
  have hfits : (Json.Number.integer m).Fits :=
    ⟨Int.le_trans (by decide) (Int.natCast_nonneg m), Int.ofNat_le.mpr hm⟩
  have hread := Json.Number.number?_eq_reread hfits
  rw [Json.Number.reread_integer hfits] at hread
  exact .number hread

/-- The groups of flags hold no number. -/
theorem exact_labels (t : Taxonomy) (r : Record) : (Value.object (labels t r)).Exact := by
  rw [labels_eq_putAll]
  refine .object fun m hm => ?_
  rcases Keyed.mem_putAll hm with hm | hm
  · cases hm
  · obtain ⟨g, -, rfl⟩ := List.mem_map.mp hm
    exact .array (List.forall_mem_map.mpr fun f _ => exact_labelled f.key f.label)

/-! ## The members of a record -/

/-- The fields of a record that stand in an object with the members of a report. -/
def freeFields (r : Record) : List (String × Value) :=
  r.fields.entries.filter fun e => isFree e.2

/-- The members of a report on a record. -/
def ownMembers (r : Record) (showPatch : Bool) : List (String × Value) :=
  [("project", .string r.project), ("commit", .string r.commit),
    ("classification", texts r.flags)] ++
  if showPatch then [("patch", .string r.patch)] else []

/-- The fields of a record leave a member of the report as it is. -/
def Spares (r : Record) (key : String) (own : Value) : Prop :=
  ∀ e ∈ r.fields.entries, isFree e.2 → e.1 = key → e.2 = own

theorem bugMembers_eq (r : Record) (showPatch : Bool) :
    bugMembers r showPatch = ownMembers r showPatch ++ freeFields r := rfl

/-- No free field is there twice. -/
theorem nodup_keys_freeFields (r : Record) : (Keyed.keys (freeFields r)).Nodup :=
  r.fields.nodup.sublist (List.filter_sublist.map _)

/-- The free fields are the fields of the record that are no flags. -/
theorem lookup?_freeFields_iff {key : String} {v : Value} :
    Keyed.lookup? (freeFields r) key = some v ↔ (key, v) ∈ r.fields.entries ∧ isFree v := by
  rw [Keyed.lookup?_eq_some_iff (nodup_keys_freeFields r), freeFields, List.mem_filter]

/-- Which of two values of a member a reader finds. -/
theorem or_lookup?_freeFields_iff {key : String} {own : Value} :
    (Keyed.lookup? (freeFields r) key).or (some own) = some own ↔ Spares r key own := by
  cases hfield : Keyed.lookup? (freeFields r) key with
  | none =>
      refine iff_of_true rfl fun e he hfree hkey => ?_
      subst hkey
      rw [lookup?_freeFields_iff.mpr ⟨he, hfree⟩] at hfield
      cases hfield
  | some v =>
      obtain ⟨hmem, hfree⟩ := lookup?_freeFields_iff.mp hfield
      constructor
      · intro h e he hefree hkey
        subst hkey
        rw [lookup?_freeFields_iff.mpr ⟨he, hefree⟩] at hfield
        rw [Option.some.inj hfield]
        exact Option.some.inj h
      · intro h
        exact congrArg some (h _ hmem hfree rfl)

/-- The fields of a record that was read leave the names of its parts alone. -/
theorem lookup?_freeFields_of_named (hr : r.Given) {key : String} (hkey : key ∈ namedKeys) :
    Keyed.lookup? (freeFields r) key = none := by
  rw [Keyed.lookup?_eq_none_iff]
  intro hmem
  obtain ⟨e, he, rfl⟩ := List.mem_map.mp hmem
  exact (hr.readable_fields e (List.mem_of_mem_filter he)).1 hkey

/-- Of a free field and a member of the report with one name, the field stands last. -/
theorem last?_bugMembers (r : Record) (showPatch : Bool) (key : String) :
    Keyed.last? (bugMembers r showPatch) key =
      (Keyed.lookup? (freeFields r) key).or (Keyed.lookup? (ownMembers r showPatch) key) := by
  have hown : (Keyed.keys (ownMembers r showPatch)).Nodup := by
    cases showPatch <;> simp [ownMembers, Keyed.keys]
  rw [bugMembers_eq, Keyed.last?_append, Keyed.last?_of_nodup (nodup_keys_freeFields r),
    Keyed.last?_of_nodup hown]

/-- The report has four members of its own for a record. -/
theorem lookup?_ownMembers_of_not_mem (r : Record) (showPatch : Bool) {key : String}
    (h : key ∉ ["project", "commit", "classification", "patch"]) :
    Keyed.lookup? (ownMembers r showPatch) key = none := by
  simp only [List.mem_cons, List.not_mem_nil, or_false, not_or] at h
  obtain ⟨hproject, hcommit, hclassification, hpatch⟩ := h
  rw [Keyed.lookup?_eq_none_iff]
  cases showPatch <;> simp [ownMembers, Keyed.keys, *]

/-- The values of the report's own members are texts and the list of the flags. -/
theorem forall_ownMembers {p : Value → Prop} (r : Record) (showPatch : Bool)
    (hstring : ∀ s, p (.string s)) (htexts : p (texts r.flags)) :
    ∀ m ∈ ownMembers r showPatch, p m.2 := by
  intro m hm
  rw [ownMembers, List.mem_append] at hm
  rcases hm with hm | hm
  · simp only [List.mem_cons, List.not_mem_nil, or_false] at hm
    rcases hm with rfl | rfl | rfl
    · exact hstring _
    · exact hstring _
    · exact htexts
  · split at hm
    · obtain rfl := List.mem_singleton.mp hm
      exact hstring _
    · cases hm

/-- The report's own members nest one deep at most. -/
theorem readable_ownMembers (r : Record) (showPatch : Bool) :
    ∀ m ∈ ownMembers r showPatch, m.2.Readable (n + 1) :=
  forall_ownMembers r showPatch .string (readable_texts _)

/-- The report's own members hold no number. -/
theorem exact_ownMembers (r : Record) (showPatch : Bool) :
    ∀ m ∈ ownMembers r showPatch, m.2.Exact :=
  forall_ownMembers r showPatch .string (exact_texts _)

/-- The numbers in the fields that reports show are read back from their texts. -/
def ComesBack (r : Record) : Prop :=
  ∀ e ∈ r.fields.entries, isFree e.2 → e.2.Exact

/-- A member of a record whose numbers come back has numbers that come back. -/
theorem exact_bugMembers (h : ComesBack r) (showPatch : Bool) :
    ∀ m ∈ bugMembers r showPatch, m.2.Exact := by
  rw [bugMembers_eq, List.forall_mem_append]
  refine ⟨exact_ownMembers r showPatch, fun m hm => ?_⟩
  obtain ⟨hmem, hfree⟩ := List.mem_filter.mp hm
  exact h m hmem hfree

/-- The values of the fields can be read where one container stands around them. -/
def Legible (r : Record) : Prop :=
  ∀ e ∈ r.fields.entries, e.2.Readable (Json.maxDepth - 1)

/-- The values of a record that was read nest two less than what can be read. -/
theorem legible_of_given (hr : r.Given) : Legible r := fun e he =>
  (hr.readable_fields e he).2.mono (by decide)

/-- One container more around the values of a legible record can be read. -/
theorem readable_bugMembers (hr : Legible r) (showPatch : Bool) :
    ∀ m ∈ bugMembers r showPatch, m.2.Readable (Json.maxDepth - 1) := by
  rw [bugMembers_eq, List.forall_mem_append]
  exact ⟨readable_ownMembers r showPatch, fun m hm => hr m (List.mem_of_mem_filter hm)⟩

/-- What a reader has to find of a record. -/
structure Gives (r : Record) (x : Value) : Prop where
  project : x.member? "project" = some (.string r.project)
  commit : x.member? "commit" = some (.string r.commit)
  classification : x.member? "classification" = some (texts r.flags)
  fields : ∀ e ∈ r.fields.entries, isFree e.2 → x.member? e.1 = some e.2

/-- What a reader has to find in a listing: its counts, and of each record that is
shown, in order, all but the false flags. -/
structure GivesListing (l : Listing) (o : Options) (w : Value) : Prop where
  total : w.member? "total" = some (count l.total)
  shown : w.member? "shown" = some (count l.records.length)
  bugs : ∃ items, w.member? "bugs" = some (.array items) ∧
    items.length = (match o.limit with
      | some n => min n l.records.length
      | none => l.records.length) ∧
    ∀ (i : Nat) (x : Value), items[i]? = some x → ∃ r, l.records[i]? = some r ∧ Gives r x

/-- What a reader has to find in a report on a bug. -/
structure GivesBug (r : Record) (t : Taxonomy) (o : Options) (w : Value) : Prop
    extends Gives r w where
  patch : o.showPatch → w.member? "patch" = some (.string r.patch)
  tool : w.member? "tool" = some tool
  labels : w.member? "labels" = some (.object (labels t r))

/-! ## A record beside other members -/

section Beside

variable {before after : List (String × Value)} {showPatch : Bool}

/-- A key is looked up behind the members of a record first, then among its free fields, among
the report's own members, and last in front. -/
theorem member?_beside
    (hall : ∀ m ∈ before ++ bugMembers r showPatch ++ after, m.2.Readable n) (k : String) :
    (Value.object (before ++ bugMembers r showPatch ++ after)).settled.member? k =
      (Keyed.last? after k).or
        (((Keyed.lookup? (freeFields r) k).or (Keyed.lookup? (ownMembers r showPatch) k)).or
          (Keyed.last? before k)) := by
  rw [member?_settled_of_readable hall, Keyed.last?_append, Keyed.last?_append, last?_bugMembers]

/-- Among other members a record is found, if its fields spare its flags and the
members behind it agree with its fields. -/
theorem gives_beside_iff (hr : r.Given)
    (hall : ∀ m ∈ before ++ bugMembers r showPatch ++ after, m.2.Readable n)
    (hafter : ∀ k ∈ ["project", "commit", "classification"], Keyed.last? after k = none) :
    Gives r (Value.object (before ++ bugMembers r showPatch ++ after)).settled ↔
      Spares r "classification" (texts r.flags) ∧
        ∀ e ∈ r.fields.entries, isFree e.2 → ∀ v, Keyed.last? after e.1 = some v → e.2 = v := by
  simp only [List.forall_mem_cons] at hafter
  obtain ⟨hproject, hcommit, hflags, -⟩ := hafter
  have hclassification :
      (Value.object (before ++ bugMembers r showPatch ++ after)).settled.member? "classification" =
        (Keyed.lookup? (freeFields r) "classification").or (some (texts r.flags)) := by
    rw [member?_beside hall, hflags, Option.none_or, Option.or_assoc]
    rfl
  have hfield : ∀ e ∈ r.fields.entries, isFree e.2 →
      (Value.object (before ++ bugMembers r showPatch ++ after)).settled.member? e.1 =
        (Keyed.last? after e.1).or (some e.2) := by
    intro e he hfree
    rw [member?_beside hall, lookup?_freeFields_iff.mpr ⟨he, hfree⟩]
    rfl
  constructor
  · intro h
    refine ⟨or_lookup?_freeFields_iff.mp (hclassification.symm.trans h.classification), ?_⟩
    intro e he hfree v hv
    have hvalue := (hfield e he hfree).symm.trans (h.fields e he hfree)
    rw [hv] at hvalue
    exact (Option.some.inj hvalue).symm
  · rintro ⟨hspares, hagree⟩
    refine ⟨?_, ?_, hclassification.trans (or_lookup?_freeFields_iff.mpr hspares), ?_⟩
    · rw [member?_beside hall, hproject, lookup?_freeFields_of_named hr (by decide)]
      rfl
    · rw [member?_beside hall, hcommit, lookup?_freeFields_of_named hr (by decide)]
      rfl
    · intro e he hfree
      rw [hfield e he hfree]
      cases hlast : Keyed.last? after e.1 with
      | none => rfl
      | some v => exact congrArg some (hagree e he hfree v hlast).symm

/-- A record that is found comes back: its fields stand for themselves, or for an
equal member behind them. -/
theorem comesBack_of_gives (hr : ∀ e ∈ r.fields.entries, e.2.Sound)
    (hall : ∀ m ∈ before ++ bugMembers r showPatch ++ after, m.2.Readable n)
    (hafter : ∀ m ∈ after, m.2.Exact)
    (h : Gives r (Value.object (before ++ bugMembers r showPatch ++ after)).reread.settled) :
    ComesBack r := by
  intro e he hfree
  have hvalue := h.fields e he hfree
  rw [member?_reread_of_readable hall, member?_beside hall, lookup?_freeFields_iff.mpr ⟨he, hfree⟩,
    Option.some_or, Option.some_or] at hvalue
  cases hlast : Keyed.last? after e.1 with
  | none =>
      rw [hlast, Option.none_or, Option.map_some] at hvalue
      exact (hr e he).reread_eq_iff.mp (Option.some.inj hvalue)
  | some own =>
      have hexact := hafter _ (List.mem_reverse.mp (Keyed.mem_of_lookup? hlast))
      rw [hlast, Option.some_or, Option.map_some, hexact.reread_eq] at hvalue
      exact Option.some.inj hvalue ▸ hexact

end Beside

/-! ## One bug -/

/-- The members of the report of a bug can be read. -/
theorem readable_members_bug (hr : Legible r) (t : Taxonomy) (o : Options) :
    ∀ m ∈ [("tool", tool)] ++ bugMembers r o.showPatch ++ [("labels", .object (labels t r))],
      m.2.Readable (Json.maxDepth - 1) := by
  rw [List.forall_mem_append, List.forall_mem_append]
  refine ⟨⟨?_, readable_bugMembers hr o.showPatch⟩, ?_⟩
  · exact List.forall_mem_singleton.mpr readable_tool
  · exact List.forall_mem_singleton.mpr (readable_labels t r)

/-- **A report on a bug can always be read.** -/
theorem read?_bug (hr : Legible r) (t : Taxonomy) (o : Options) (pretty : Bool) :
    Json.read? ((ReportKind.json pretty).bug r t o) = some (bug r t o).reread.settled := by
  have hmembers := readable_members_bug hr t o
  have hsound : (bug r t o).Sound := .object fun m hm => (hmembers m hm).sound
  have hdepth : (bug r t o).depth ≤ Json.maxDepth - 1 + 1 :=
    Value.depth_object_le_iff.mpr fun m hm => (hmembers m hm).depth_le
  rw [ReportKind.bug, read?_jsonText hsound, if_pos (hdepth.trans (by decide))]

/-- A member of the report of a bug is one of the labels, of the free fields, of the report's own
members or of the tool, looked up in this order. -/
theorem member?_bug (hr : Legible r) (t : Taxonomy) (o : Options) (k : String) :
    (bug r t o).settled.member? k =
      (if "labels" = k then some (.object (labels t r)) else none).or
        (((Keyed.lookup? (freeFields r) k).or (Keyed.lookup? (ownMembers r o.showPatch) k)).or
          (if "tool" = k then some tool else none)) :=
  member?_beside (readable_members_bug hr t o) k

/-- The report of a bug states its record unless a field takes the place of the flags or is
hidden by the labels. -/
theorem gives_bug_iff (hr : r.Given) (t : Taxonomy) (o : Options) :
    Gives r (bug r t o).settled ↔
      Spares r "classification" (texts r.flags) ∧ Spares r "labels" (.object (labels t r)) := by
  have hlast (k : String) : Keyed.last? [("labels", .object (labels t r))] k =
      if "labels" = k then some (Value.object (labels t r)) else none := rfl
  have hafter : ∀ k ∈ ["project", "commit", "classification"],
      Keyed.last? [("labels", .object (labels t r))] k = (none : Option Value) := by
    simp only [List.forall_mem_cons]
    exact ⟨rfl, rfl, rfl, List.forall_mem_nil _⟩
  have hgives := gives_beside_iff hr (readable_members_bug (legible_of_given hr) t o) hafter
  refine hgives.trans (and_congr_right fun _ => ?_)
  constructor
  · intro h e he hfree hkey
    exact h e he hfree _ ((hlast e.1).trans (if_pos hkey.symm))
  · intro h e he hfree v hv
    obtain ⟨hkey, hv⟩ := Option.ite_none_right_eq_some.mp ((hlast e.1).symm.trans hv)
    exact (h e he hfree hkey.symm).trans (Option.some.inj hv)

/-- The report of a bug states all it should unless a field takes the place of one of its
members, or is hidden by one. -/
theorem givesBug_iff (hr : r.Given) (t : Taxonomy) (o : Options) :
    GivesBug r t o (bug r t o).settled ↔
      Spares r "classification" (texts r.flags) ∧ Spares r "tool" tool ∧
        Spares r "labels" (.object (labels t r)) := by
  have hlegible := legible_of_given hr
  have hgives := gives_bug_iff hr t o
  have hpatch : o.showPatch → (bug r t o).settled.member? "patch" = some (.string r.patch) := by
    intro hshow
    rw [member?_bug hlegible, lookup?_freeFields_of_named hr (by decide), hshow]
    rfl
  have htool : (bug r t o).settled.member? "tool" =
      (Keyed.lookup? (freeFields r) "tool").or (some tool) := by
    rw [member?_bug hlegible, lookup?_ownMembers_of_not_mem r o.showPatch (by decide),
      Option.or_none]
    rfl
  have hlabels : (bug r t o).settled.member? "labels" = some (.object (labels t r)) := by
    rw [member?_bug hlegible]
    rfl
  constructor
  · intro h
    obtain ⟨hspares, hagree⟩ := hgives.mp h.toGives
    exact ⟨hspares, or_lookup?_freeFields_iff.mp (htool.symm.trans h.tool), hagree⟩
  · rintro ⟨hspares, hown, hagree⟩
    exact ⟨hgives.mpr ⟨hspares, hagree⟩, hpatch,
      htool.trans (or_lookup?_freeFields_iff.mpr hown), hlabels⟩

/-- A reader gets the report on a bug back as far as its numbers come back. -/
theorem givesBug_reread_iff (hr : r.Given) (t : Taxonomy) (o : Options) :
    GivesBug r t o (bug r t o).reread.settled ↔
      Spares r "classification" (texts r.flags) ∧ Spares r "tool" tool ∧
        Spares r "labels" (.object (labels t r)) ∧ ComesBack r := by
  have hsound : ∀ e ∈ r.fields.entries, e.2.Sound := fun e he => (hr.readable_fields e he).2.sound
  have hexact (h : ComesBack r) : (bug r t o).reread = bug r t o := by
    refine Value.Exact.reread_eq (.object ?_)
    rw [List.forall_mem_append]
    exact ⟨List.forall_mem_cons.mpr ⟨exact_tool, exact_bugMembers h o.showPatch⟩,
      List.forall_mem_singleton.mpr (exact_labels t r)⟩
  constructor
  · intro h
    have hback : ComesBack r :=
      comesBack_of_gives hsound (readable_members_bug (legible_of_given hr) t o)
        (List.forall_mem_singleton.mpr (exact_labels t r)) h.toGives
    rw [hexact hback] at h
    obtain ⟨hflags, htool, hlabels⟩ := (givesBug_iff hr t o).mp h
    exact ⟨hflags, htool, hlabels, hback⟩
  · rintro ⟨hflags, htool, hlabels, hback⟩
    rw [hexact hback]
    exact (givesBug_iff hr t o).mpr ⟨hflags, htool, hlabels⟩

/-! ## A listing -/

/-- An entry of a list report states its record unless a field takes the place of the flags. -/
theorem gives_entry_iff (hr : r.Given) :
    Gives r (Value.object (bugMembers r false)).settled ↔
      Spares r "classification" (texts r.flags) := by
  have hall : ∀ m ∈ [] ++ bugMembers r false ++ [], m.2.Readable (Json.maxDepth - 1) := by
    rw [List.nil_append, List.append_nil]
    exact readable_bugMembers (legible_of_given hr) false
  have hgives := gives_beside_iff hr hall fun k _ => rfl
  rw [List.nil_append, List.append_nil] at hgives
  refine hgives.trans (and_iff_left fun e _ _ v hv => ?_)
  cases hv

/-- A listing can hold the values of the record: three containers stand around them. -/
def HasRoom (r : Record) : Prop :=
  ∀ e ∈ r.fields.entries, isFree e.2 → e.2.depth + 3 ≤ Json.maxDepth

/-- What a listing says before it comes to the bugs. -/
def preamble (l : Listing) : List (String × Value) :=
  [("tool", tool),
    ("total", count l.total),
    ("shown", count l.records.length),
    ("match_mode", .string l.mode.name),
    ("filters", .array (l.filters.map fun key => labelled key (l.taxonomy.label key))),
    ("sort", texts l.sort.fields),
    ("reverse", .bool l.sort.reverse)]

/-- The bugs of a listing. -/
def bugs (l : Listing) (o : Options) : Value :=
  .array ((l.shown o).map fun r => .object (bugMembers r false))

variable {l : Listing} {o : Options}

theorem listing_eq (l : Listing) (o : Options) :
    listing l o = .object (preamble l ++ [("bugs", bugs l o)]) := rfl

/-- The members before the records can be read, if the numbers fit into 64 bits. -/
theorem readable_preamble (htotal : l.total ≤ Decimal.wordLimit)
    (hshown : l.records.length ≤ Decimal.wordLimit) :
    ∀ m ∈ preamble l, m.2.Readable (n + 2) := by
  have hfilters : (Value.array
      (l.filters.map fun key => labelled key (l.taxonomy.label key))).Readable (n + 2) := by
    refine .array fun v hv => ?_
    obtain ⟨key, -, rfl⟩ := List.mem_map.mp hv
    exact readable_labelled key _
  simp only [preamble, List.forall_mem_cons]
  exact ⟨readable_tool, readable_count htotal, readable_count hshown, .string _, hfilters,
    readable_texts _, .bool _, List.forall_mem_nil _⟩

/-- The numbers of a list report can be read. -/
theorem sound_listing (hl : ∀ s ∈ l.records, Legible s) (htotal : l.total ≤ Decimal.wordLimit)
    (hshown : l.records.length ≤ Decimal.wordLimit) (o : Options) : (listing l o).Sound := by
  have hbugs : (bugs l o).Sound := by
    refine .array fun v hv => ?_
    obtain ⟨r, hr, rfl⟩ := List.mem_map.mp hv
    have hmembers := readable_bugMembers (hl r (Listing.mem_of_mem_shown hr)) false
    exact .object fun m hm => (hmembers m hm).sound
  rw [listing_eq]
  refine .object (List.forall_mem_append.mpr ⟨fun m hm => ?_, List.forall_mem_singleton.mpr hbugs⟩)
  exact (readable_preamble (n := 0) htotal hshown m hm).sound

/-- An entry can stand in a list report exactly if its record has room for that. -/
theorem depth_entry_le_iff :
    (Value.object (bugMembers r false)).depth ≤ Json.maxDepth - 2 ↔ HasRoom r := by
  have hown : ∀ m ∈ ownMembers r false, m.2.depth ≤ Json.maxDepth - 3 := fun m hm =>
    (readable_ownMembers r false m hm).depth_le
  have hroom (n : Nat) : n ≤ Json.maxDepth - 3 ↔ n + 3 ≤ Json.maxDepth :=
    Nat.le_sub_iff_add_le (by decide)
  rw [show Json.maxDepth - 2 = Json.maxDepth - 3 + 1 from rfl, Value.depth_object_le_iff,
    bugMembers_eq, List.forall_mem_append, and_iff_right hown, HasRoom]
  simp only [freeFields, List.mem_filter, and_imp, hroom]

/-- A list report can be read exactly if all records that it shows have room. -/
theorem depth_listing_le_iff (htotal : l.total ≤ Decimal.wordLimit)
    (hshown : l.records.length ≤ Decimal.wordLimit) :
    (listing l o).depth ≤ Json.maxDepth ↔ ∀ r ∈ l.shown o, HasRoom r := by
  have hpreamble : ∀ m ∈ preamble l, m.2.depth ≤ Json.maxDepth - 1 := fun m hm =>
    (readable_preamble htotal hshown m hm).depth_le
  rw [listing_eq, show Json.maxDepth = Json.maxDepth - 1 + 1 from rfl, Value.depth_object_le_iff,
    List.forall_mem_append, and_iff_right hpreamble, List.forall_mem_singleton, bugs,
    show Json.maxDepth - 1 = Json.maxDepth - 2 + 1 from rfl, Value.depth_array_le_iff,
    List.forall_mem_map]
  simp only [depth_entry_le_iff]

/-- The members of a list report have names of their own. -/
theorem member?_listing (l : Listing) (o : Options) (k : String) :
    (listing l o).settled.member? k =
      ((if "bugs" = k then some (bugs l o) else none).or
        (Keyed.lookup? (preamble l) k)).map Value.settled := by
  have hpreamble : (Keyed.keys (preamble l)).Nodup := by simp [preamble, Keyed.keys]
  rw [listing_eq, member?_settled, Keyed.last?_append, Keyed.last?_of_nodup hpreamble]
  rfl

/-- Reading the records of a list report back is reading each one back. -/
theorem reread_settled_bugs (l : Listing) (o : Options) : (bugs l o).reread.settled =
    .array ((l.shown o).map fun r => (Value.object (bugMembers r false)).reread.settled) := by
  rw [bugs, Value.reread_array, Value.settled, Json.settledItems_eq_map, List.map_map, List.map_map]
  rfl

/-- The records of a list report are settled one by one. -/
theorem settled_bugs (l : Listing) (o : Options) : (bugs l o).settled =
    .array ((l.shown o).map fun r => (Value.object (bugMembers r false)).settled) := by
  rw [bugs, Value.settled, Json.settledItems_eq_map, List.map_map]
  rfl

/-- A listing that gives its records back gives each that is shown. -/
theorem gives_of_givesListing {w : Value} {entry : Record → Value}
    (hbugs : w.member? "bugs" = some (.array ((l.shown o).map entry))) (h : GivesListing l o w)
    {r : Record} (hr : r ∈ l.shown o) : Gives r (entry r) := by
  obtain ⟨items, hitems, -, hgives⟩ := h.bugs
  rw [hbugs] at hitems
  cases hitems
  obtain ⟨i, hi⟩ := List.mem_iff_getElem?.mp hr
  obtain ⟨s, hs, hgives⟩ := hgives i _ (by rw [List.getElem?_map, hi]; rfl)
  have hrs : l.records[i]? = some r := Listing.getElem?_of_getElem?_shown hi
  obtain rfl := Option.some.inj (hs.symm.trans hrs)
  exact hgives

/-- A list report states its records unless a field of one takes the place of the flags. -/
theorem givesListing_iff (hl : ∀ s ∈ l.records, s.Given) :
    GivesListing l o (listing l o).settled ↔
      ∀ r ∈ l.shown o, Spares r "classification" (texts r.flags) := by
  have hbugs : (listing l o).settled.member? "bugs" =
      some (.array ((l.shown o).map fun r => (Value.object (bugMembers r false)).settled)) := by
    rw [member?_listing, if_pos rfl, ← settled_bugs]
    rfl
  constructor
  · intro h r hr
    have hgives := gives_of_givesListing hbugs h hr
    exact (gives_entry_iff (hl r (Listing.mem_of_mem_shown hr))).mp hgives
  · intro h
    refine ⟨?_, ?_, _, hbugs, ?_, fun i x hx => ?_⟩
    · rw [member?_listing]
      rfl
    · rw [member?_listing]
      rfl
    · rw [List.length_map, Listing.length_shown]
    · rw [List.getElem?_map] at hx
      obtain ⟨r, hr, rfl⟩ := Option.map_eq_some_iff.mp hx
      have hmem : r ∈ l.shown o := List.mem_of_getElem? hr
      exact ⟨r, Listing.getElem?_of_getElem?_shown hr,
        (gives_entry_iff (hl r (Listing.mem_of_mem_shown hmem))).mpr (h r hmem)⟩

/-- The values of a listing, with numbers that come back, are read as they are. -/
theorem reread_listing (htotal : l.total ≤ Decimal.wordLimit)
    (hshown : l.records.length ≤ Decimal.wordLimit) (h : ∀ r ∈ l.shown o, ComesBack r) :
    (listing l o).reread = listing l o := by
  have hfilters : (Value.array
      (l.filters.map fun key => labelled key (l.taxonomy.label key))).Exact :=
    .array (List.forall_mem_map.mpr fun key _ => exact_labelled key _)
  have hbugs : (bugs l o).Exact :=
    .array (List.forall_mem_map.mpr fun r hr => .object (exact_bugMembers (h r hr) false))
  have hpreamble : ∀ m ∈ preamble l, m.2.Exact := by
    simp only [preamble, List.forall_mem_cons]
    exact ⟨exact_tool, exact_count htotal, exact_count hshown, .string _, hfilters, exact_texts _,
      .bool _, List.forall_mem_nil _⟩
  rw [listing_eq]
  refine Value.Exact.reread_eq (.object (List.forall_mem_append.mpr ⟨hpreamble, ?_⟩))
  exact List.forall_mem_singleton.mpr hbugs

/-- A reader gets a listing back as far as the numbers of its records come back. -/
theorem givesListing_reread_iff (hl : ∀ s ∈ l.records, s.Given)
    (htotal : l.total ≤ Decimal.wordLimit)
    (hshown : l.records.length ≤ Decimal.wordLimit) :
    GivesListing l o (listing l o).reread.settled ↔
      ∀ r ∈ l.shown o, Spares r "classification" (texts r.flags) ∧ ComesBack r := by
  constructor
  · intro h
    have hbugs : (listing l o).reread.settled.member? "bugs" = some (.array
        ((l.shown o).map fun r => (Value.object (bugMembers r false)).reread.settled)) := by
      rw [listing_eq, member?_reread, Keyed.last?_append]
      exact congrArg some (reread_settled_bugs l o)
    have hback : ∀ r ∈ l.shown o, ComesBack r := by
      intro r hr
      have hgiven := hl r (Listing.mem_of_mem_shown hr)
      have hgives := gives_of_givesListing hbugs h hr
      have hall := readable_bugMembers (legible_of_given hgiven) false
      rw [← List.nil_append (bugMembers r false), ← List.append_nil ([] ++ bugMembers r false)]
        at hgives hall
      exact comesBack_of_gives (fun e he => (hgiven.readable_fields e he).2.sound) hall
        (List.forall_mem_nil _) hgives
    rw [reread_listing htotal hshown hback] at h
    exact fun r hr => ⟨(givesListing_iff hl).mp h r hr, hback r hr⟩
  · intro h
    rw [reread_listing htotal hshown fun r hr => (h r hr).2]
    exact (givesListing_iff hl).mpr fun r hr => (h r hr).1

/-! ## Both reports -/

/-- **When structured reports can be read back.**  The counts of the listing fit
into a word.  The listing gives every record back exactly if no field of a
record that is shown takes the place of its flags, or nests too deep for one
more level, and the numbers in the fields come back from their texts; the report
on a bug does exactly if no field takes the place of a member of the report, and
the numbers in the fields come back. -/
theorem readBack_iff (hl : ∀ s ∈ l.records, s.Given) (htotal : l.total ≤ Decimal.wordLimit)
    (hshown : l.records.length ≤ Decimal.wordLimit) (hr : r.Given) (t : Taxonomy) (o : Options)
    (pretty : Bool) :
    ((∃ w, Json.read? ((ReportKind.json pretty).listing l o) = some w ∧ GivesListing l o w) ↔
      ∀ s ∈ l.shown o, Spares s "classification" (texts s.flags) ∧ HasRoom s ∧ ComesBack s) ∧
    ((∃ w, Json.read? ((ReportKind.json pretty).bug r t o) = some w ∧ GivesBug r t o w) ↔
      Spares r "classification" (texts r.flags) ∧ Spares r "tool" tool ∧
        Spares r "labels" (.object (labels t r)) ∧ ComesBack r) := by
  constructor
  · have hlegible : ∀ s ∈ l.records, Legible s := fun s hs => legible_of_given (hl s hs)
    have hread := read?_jsonText (sound_listing hlegible htotal hshown o) pretty
    have hroom := depth_listing_le_iff (o := o) htotal hshown
    have hgiven := givesListing_reread_iff (o := o) hl htotal hshown
    constructor
    · rintro ⟨w, hw, hgives⟩
      obtain ⟨hdepth, hsettled⟩ := Option.ite_none_right_eq_some.mp (hread.symm.trans hw)
      obtain rfl := Option.some.inj hsettled
      intro s hs
      obtain ⟨hspares, hback⟩ := hgiven.mp hgives s hs
      exact ⟨hspares, hroom.mp hdepth s hs, hback⟩
    · intro h
      have hdepth := hroom.mpr fun s hs => (h s hs).2.1
      exact ⟨_, hread.trans (if_pos hdepth), hgiven.mpr fun s hs => ⟨(h s hs).1, (h s hs).2.2⟩⟩
  · rw [read?_bug (legible_of_given hr), ← givesBug_reread_iff hr t o]
    constructor
    · rintro ⟨w, hw, hgives⟩
      obtain rfl := Option.some.inj hw
      exact hgives
    · exact fun h => ⟨_, rfl, h⟩

/-- A bug list with one record, that has a flag and a field of its own. -/
def plainBugs : String :=
  "[\x7b\"project\":\"Lang\",\"commit\":1,\"crash\":true,\"size\":\"small\"\x7d]"

/-- Its record. -/
def plainBug : Record :=
  ((Record.new "Lang" "1").setField "crash" (.bool true)).setField "size" (.string "small")

theorem given_plainBug : plainBug.Given :=
  ⟨plainBugs, [plainBug], rfl, List.mem_singleton_self _⟩

/-- A field beside the report's own members comes back, with both reports. -/
theorem readBack_iff_of_plainBug :
    let l : Listing := ⟨[plainBug], 1, [], .all, .default, .empty⟩
    plainBug.flags = ["crash"] ∧
      (∃ w, Json.read? ((ReportKind.json true).listing l {}) = some w ∧ GivesListing l {} w) ∧
      ∃ w, Json.read? ((ReportKind.json true).bug plainBug .empty {}) = some w ∧
        GivesBug plainBug .empty {} w := by
  intro l
  have hl : ∀ s ∈ l.records, s.Given := List.forall_mem_singleton.mpr given_plainBug
  have hfree : ∀ e ∈ plainBug.fields.entries, isFree e.2 → e = ("size", .string "small") := by
    rw [show plainBug.fields.entries = [("crash", .bool true), ("size", .string "small")] from rfl]
    simp [isFree]
  have hspares (key : String) (hkey : "size" ≠ key) (own : Value) : Spares plainBug key own := by
    intro e he hefree hekey
    rw [hfree e he hefree] at hekey
    exact absurd hekey hkey
  have hroom : HasRoom plainBug := by
    intro e he hefree
    rw [hfree e he hefree]
    decide
  have hback : ComesBack plainBug := by
    intro e he hefree
    rw [hfree e he hefree]
    exact .string "small"
  have hboth := readBack_iff hl (by decide) (by decide) given_plainBug .empty {} true
  refine ⟨by decide, hboth.1.mpr (List.forall_mem_singleton.mpr ⟨?_, hroom, hback⟩),
    hboth.2.mpr ?_⟩
  · exact hspares _ (by decide) _
  · exact ⟨hspares _ (by decide) _, hspares _ (by decide) _, hspares _ (by decide) _, hback⟩

/-- A bug list with one record, that has a flag and a field named like the member
in which reports list the flags. -/
def shadowedBugs : String :=
  "[\x7b\"project\":\"Lang\",\"commit\":1,\"crash\":true,\"classification\":\"mine\"\x7d]"

/-- **Not every report gives back the flags of its records.**  A field named
`classification` takes their place. -/
theorem flags_shadowed_by_field :
    let r := ((Record.new "Lang" "1").setField "crash" (.bool true)).setField "classification"
      (.string "mine")
    let l : Listing := ⟨[r], 1, [], .all, .default, .empty⟩
    readRecords shadowedBugs = .ok [r] ∧ r.flags = ["crash"] ∧
      ¬ ∃ w, Json.read? ((ReportKind.json true).listing l {}) = some w ∧ GivesListing l {} w := by
  intro r l
  have hr : r.Given := ⟨shadowedBugs, [r], rfl, List.mem_singleton_self _⟩
  have hl : ∀ s ∈ l.records, s.Given := List.forall_mem_singleton.mpr hr
  have hlegible : ∀ s ∈ l.records, Legible s := fun s hs => legible_of_given (hl s hs)
  refine ⟨rfl, by decide, ?_⟩
  rintro ⟨w, hw, hgives⟩
  rw [ReportKind.listing, read?_jsonText (sound_listing hlegible (by decide) (by decide) _)] at hw
  obtain ⟨-, hsettled⟩ := Option.ite_none_right_eq_some.mp hw
  obtain rfl := Option.some.inj hsettled
  have hgiven := givesListing_reread_iff (o := {}) hl (by decide) (by decide)
  obtain ⟨hspares, -⟩ := hgiven.mp hgives r (List.mem_singleton_self r)
  have hfield : ("classification", Value.string "mine") ∈ r.fields.entries :=
    List.mem_cons_of_mem _ (List.mem_singleton_self _)
  cases hspares _ hfield rfl rfl

end Report.Structured

end DefectCatalog
