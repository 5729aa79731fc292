import DefectCatalog.Document
import DefectCatalog.Proofs.Json.Readable
import Mathlib.Data.List.Forall2
import Mathlib.Data.List.Nodup

/-!
# Reading the bug list

What a JSON value has to be to be a bug list is said first, member by member
(`IsEntry`, `IsBugList`), and what record an element states (`States`).  Reading
accepts exactly these values and keeps all that they say; every other value is
refused for its first fault, a wrong element before a repeated one
(`Faithful`).

An element is read along its members: after each of them, the draft of the
record reflects the members so far (`Draft.Reflects`).
-/

namespace DefectCatalog

/-! ## What a bug list is -/

/-- The member of an object with a given key. -/
def Json.Value.member? : Json.Value → String → Option Json.Value
  | .object members, k => Keyed.lookup? members k
  | _, _ => none

/-- An element of a bug list. -/
structure IsEntry (v : Json.Value) : Prop where
  object : ∃ members, v = .object members
  project : ∃ s, v.member? "project" = some (.string s)
  commit : (∃ s, v.member? "commit" = some (.string s)) ∨
    ∃ n, v.member? "commit" = some (.number n)
  patch : v.member? "patch" = none ∨ v.member? "patch" = some .null ∨
    ∃ s, v.member? "patch" = some (.string s)

/-- The text of an identifier: a string as it is, a number as it is written. -/
def identifier? : Json.Value → Option String
  | .string s => some s
  | .number n => some n.text
  | _ => none

/-- The project and the commit of an element, both as text. -/
def identity? (v : Json.Value) : Option (String × String) :=
  match v.member? "project", (v.member? "commit").bind identifier? with
  | some (.string project), some commit => some (project, commit)
  | _, _ => none

/-- A bug list: entries with distinct identities. -/
def IsBugList (v : Json.Value) : Prop :=
  ∃ items, v = .array items ∧ (∀ x ∈ items, IsEntry x) ∧ (items.map identity?).Nodup

/-- The keys of the members that are not kept among the fields of a record. -/
def namedKeys : List String :=
  ["project", "commit", "patch"]

/-- The record that an element of a bug list states. -/
structure States (v : Json.Value) (r : Record) : Prop where
  project : v.member? "project" = some (.string r.project)
  commit : v.member? "commit" = some (.string r.commit) ∨
    ∃ n, v.member? "commit" = some (.number n) ∧ r.commit = n.text
  patch : v.member? "patch" = some (.string r.patch) ∨
    (v.member? "patch" = none ∨ v.member? "patch" = some .null) ∧ r.patch = ""
  /-- The other members are kept with their values, in document order. -/
  fields : ∃ members, v = .object members ∧
    r.fields.entries = members.filter fun m => m.1 ∉ namedKeys

/-- Why a value is refused as a bug list: it is no array, or an element is no
entry, or an identity repeats; of the elements at fault the first one counts. -/
inductive Refusal (v : Json.Value) : CatalogError → Prop
  | notArray (hv : ∀ items, v ≠ .array items) :
      Refusal v (wrongShape "bug list" "expected an array of bug records")
  | notEntry {before after : List Json.Value} {x : Json.Value}
      (hv : v = .array (before ++ x :: after)) (hbefore : ∀ y ∈ before, IsEntry y)
      (hx : ¬ IsEntry x) (detail : String) :
      Refusal v (wrongShape ("bug record #" ++ toString before.length) detail)
  | repeated {before after : List Json.Value} {x : Json.Value} {project commit : String}
      (hv : v = .array (before ++ x :: after)) (hentries : ∀ y ∈ before ++ x :: after, IsEntry y)
      (hbefore : (before.map identity?).Nodup) (hx : identity? x = some (project, commit))
      (hrepeated : identity? x ∈ before.map identity?) :
      Refusal v (.load "bug list" (.duplicateRecord project commit))

/-- The result of reading a bug list is faithful to its JSON value. -/
structure Faithful (v : Json.Value) (result : Except CatalogError (List Record)) : Prop where
  /-- It is accepted exactly if it is a bug list. -/
  accepted_iff : (∃ records, result = .ok records) ↔ IsBugList v
  /-- The records are those that the elements state, one by one. -/
  stated : ∀ records, result = .ok records →
    ∃ items, v = .array items ∧ List.Forall₂ States items records
  /-- An error names the first fault. -/
  refused : ∀ e, result = .error e → Refusal v e

variable {v : Json.Value} {r : Record}

/-- What states a record is an entry of a bug list. -/
theorem States.isEntry (h : States v r) : IsEntry v where
  object := h.fields.imp fun _ hm => hm.1
  project := ⟨r.project, h.project⟩
  commit := h.commit.imp (fun hs => ⟨r.commit, hs⟩) fun ⟨n, hn, _⟩ => ⟨n, hn⟩
  patch := by
    rcases h.patch with hs | ⟨hnone | hnull, -⟩
    · exact Or.inr (Or.inr ⟨r.patch, hs⟩)
    · exact Or.inl hnone
    · exact Or.inr (Or.inl hnull)

/-- An element that states a record has its identity. -/
theorem States.identity?_eq (h : States v r) : identity? v = some r.id := by
  unfold identity?
  rw [h.project]
  rcases h.commit with hs | ⟨n, hn, hr⟩
  · simp [hs, identifier?, Record.id]
  · simp [hn, identifier?, Record.id, hr]

/-! ## Reading an element -/

section Results

variable {ε α β : Type} {x : Except ε α} {f : α → Except ε β}

/-- Two steps succeed together if the second one does with what the first one gives. -/
theorem bind_eq_ok_iff {b : β} : (x >>= f) = .ok b ↔ ∃ a, x = .ok a ∧ f a = .ok b := by
  cases x <;> simp [bind, Except.bind]

/-- Two steps fail where the first or the second one does. -/
theorem bind_eq_error_iff {e : ε} :
    (x >>= f) = .error e ↔ x = .error e ∨ ∃ a, x = .ok a ∧ f a = .error e := by
  cases x <;> simp [bind, Except.bind]

end Results

/-- A text is read from a text only. -/
theorem asText_eq_ok_iff {s : String} : asText v = .ok s ↔ v = .string s := by
  cases v <;> simp [asText]

/-- A commit is read from a text or a number. -/
theorem asIdentifier_eq_ok_iff {s : String} : asIdentifier v = .ok s ↔ identifier? v = some s := by
  cases v <;> simp [asIdentifier, identifier?]

/-- A patch is read from a text or from nothing. -/
theorem asOptionalText_eq_ok_iff {o : Option String} :
    asOptionalText v = .ok o ↔ (∃ s, v = .string s ∧ o = some s) ∨ v = .null ∧ o = none := by
  cases v <;> simp [asOptionalText, asText, Except.map, eq_comm]

namespace Record

/-- The draft holds what the members read so far say. -/
structure Draft.Reflects (d : Draft) (seen : List (String × Json.Value)) : Prop where
  project : Keyed.lookup? seen "project" = d.project.map .string
  commit : (Keyed.lookup? seen "commit").map identifier? = d.commit.map some
  patch : Keyed.lookup? seen "patch" = some (.string d.patch) ∨
    (Keyed.lookup? seen "patch" = none ∨ Keyed.lookup? seen "patch" = some .null) ∧ d.patch = ""
  fields : d.fields.entries = seen.filter fun m => m.1 ∉ namedKeys

variable {d d' : Draft} {seen rest : List (String × Json.Value)} {m : String × Json.Value}

/-- What reading a member makes of a draft. -/
inductive Draft.Takes (d : Draft) : String × Json.Value → Draft → Prop
  | project (s : String) : d.Takes ("project", .string s) { d with project := some s }
  | commit {v : Json.Value} {s : String} (hv : identifier? v = some s) :
      d.Takes ("commit", v) { d with commit := some s }
  | patch (s : String) : d.Takes ("patch", .string s) { d with patch := s }
  | noPatch : d.Takes ("patch", .null) { d with patch := "" }
  | field {key : String} (v : Json.Value) (hkey : key ∉ namedKeys) :
      d.Takes (key, v) { d with fields := d.fields.insert key v }

/-- A member that is taken is taken by one of the rules. -/
theorem Draft.takes_of_take (h : d.take m = .ok d') : d.Takes m d' := by
  obtain ⟨key, w⟩ := m
  unfold Draft.take at h
  dsimp only at h
  split at h
  next hkey =>
    obtain ⟨s, hs, hd⟩ := bind_eq_ok_iff.mp h
    obtain rfl := Except.ok.inj hd
    obtain rfl := asText_eq_ok_iff.mp hs
    exact hkey ▸ .project s
  split at h
  next hkey =>
    obtain ⟨s, hs, hd⟩ := bind_eq_ok_iff.mp h
    obtain rfl := Except.ok.inj hd
    exact hkey ▸ .commit (asIdentifier_eq_ok_iff.mp hs)
  split at h
  next hkey =>
    obtain ⟨o, ho, hd⟩ := bind_eq_ok_iff.mp h
    obtain rfl := Except.ok.inj hd
    rcases asOptionalText_eq_ok_iff.mp ho with ⟨s, rfl, rfl⟩ | ⟨rfl, rfl⟩
    · exact hkey ▸ .patch s
    · exact hkey ▸ .noPatch
  next hproject hcommit hpatch =>
    obtain rfl := Except.ok.inj h
    exact .field w (by simp [namedKeys, hproject, hcommit, hpatch])

/-- A draft without members reflects none. -/
theorem Draft.reflects_nil : ({} : Draft).Reflects [] :=
  ⟨rfl, rfl, Or.inr ⟨Or.inl rfl, rfl⟩, rfl⟩

/-- **One member.**  A member that is read is reflected: one with a named key sets one
entry of the draft, any other one joins the fields. -/
theorem Draft.Reflects.take (h : d.Reflects seen) (hnew : m.1 ∉ Keyed.keys seen)
    (htake : d.take m = .ok d') : d'.Reflects (seen ++ [m]) := by
  have hlookup (k : String) :
      Keyed.lookup? (seen ++ [m]) k = if m.1 = k then some m.2 else Keyed.lookup? seen k := by
    rw [Keyed.lookup?_append_cons hnew, List.append_nil]
  obtain ⟨hproject, hcommit, hpatch, hfields⟩ := h
  cases Draft.takes_of_take htake with
  | project s => constructor <;> simp [hlookup, namedKeys, hcommit, hpatch, hfields]
  | commit hv => constructor <;> simp [hlookup, namedKeys, hproject, hpatch, hfields, hv]
  | patch s => constructor <;> simp [hlookup, namedKeys, hproject, hcommit, hfields]
  | noPatch => constructor <;> simp [hlookup, namedKeys, hproject, hcommit, hfields]
  | @field key v hkey =>
      have hunknown : key ∉ d.fields.keys := by
        rw [OrderedMap.keys, hfields]
        exact fun hmem => hnew ((List.filter_sublist.map _).subset hmem)
      have hkept : (d.fields.insert key v).entries =
          (seen ++ [(key, v)]).filter fun m => m.1 ∉ namedKeys := by
        rw [OrderedMap.entries_insert_of_not_mem hunknown, List.filter_append, ← hfields]
        simp [hkey]
      simp only [namedKeys, List.mem_cons, List.not_mem_nil, or_false, not_or] at hkey
      obtain ⟨hp, hc, ht⟩ := hkey
      refine ⟨?_, ?_, ?_, hkept⟩ <;> simp [hlookup, hproject, hcommit, hpatch, hp, hc, ht]

/-- A member that cannot be read is at fault, wherever it stands. -/
theorem Draft.not_isEntry_of_take {fault : ShapeFault} (hnew : m.1 ∉ Keyed.keys seen)
    (htake : d.take m = .error fault) (rest : List (String × Json.Value)) :
    ¬ IsEntry (.object (seen ++ m :: rest)) := by
  rintro ⟨-, hproject, hcommit, hpatch⟩
  have hlookup : (Json.Value.object (seen ++ m :: rest)).member? m.1 = some m.2 := by
    rw [Json.Value.member?, Keyed.lookup?_append_cons hnew, if_pos rfl]
  obtain ⟨key, w⟩ := m
  unfold Draft.take at htake
  dsimp only at htake hlookup
  split at htake
  next hkey =>
    subst hkey
    obtain ⟨s, hs⟩ := hproject
    obtain rfl := Option.some.inj (hlookup.symm.trans hs)
    cases htake
  split at htake
  next hkey =>
    subst hkey
    rcases hcommit with ⟨s, hs⟩ | ⟨n, hn⟩
    · obtain rfl := Option.some.inj (hlookup.symm.trans hs)
      cases htake
    · obtain rfl := Option.some.inj (hlookup.symm.trans hn)
      cases htake
  split at htake
  next hkey =>
    subst hkey
    rcases hpatch with hnone | hnull | ⟨s, hs⟩
    · cases hlookup.symm.trans hnone
    · obtain rfl := Option.some.inj (hlookup.symm.trans hnull)
      cases htake
    · obtain rfl := Option.some.inj (hlookup.symm.trans hs)
      cases htake
  next => cases htake

/-- **All members.**  Members with distinct keys are all reflected, or one of
them is at fault. -/
theorem Draft.Reflects.foldlM_take (h : d.Reflects seen)
    (hnodup : (Keyed.keys (seen ++ rest)).Nodup) :
    match rest.foldlM Draft.take d with
    | .ok d' => d'.Reflects (seen ++ rest)
    | .error _ => ¬ IsEntry (.object (seen ++ rest)) := by
  -- the draft reflects the members before `rest`, which grow as `rest` shrinks
  induction rest generalizing d seen with
  | nil =>
      rw [List.append_nil]
      exact h
  | cons m rest ih =>
      have hnew : m.1 ∉ Keyed.keys seen := by
        rw [Keyed.keys, List.map_append, List.nodup_append] at hnodup
        exact fun hmem => hnodup.2.2 _ hmem _ List.mem_cons_self rfl
      rw [List.foldlM_cons]
      cases htake : d.take m with
      | error fault => exact Draft.not_isEntry_of_take hnew htake rest
      | ok next =>
          have hrest := ih (h.take hnew htake)
          rw [List.append_assoc, List.singleton_append] at hrest
          exact hrest hnodup

/-- A draft that reflects all members becomes the record that they state, or
one of them is missing. -/
theorem Draft.Reflects.finish (h : d.Reflects seen) :
    match d.finish with
    | .ok r => States (.object seen) r
    | .error _ => ¬ IsEntry (.object seen) := by
  obtain ⟨project, commit, patch, fields⟩ := d
  obtain ⟨hproject, hcommit, hpatch, hfields⟩ := h
  cases project with
  | none =>
      rintro ⟨-, ⟨s, hs⟩, -, -⟩
      cases hproject.symm.trans hs
  | some project =>
      cases commit with
      | none =>
          rintro ⟨-, -, ⟨s, hs⟩ | ⟨n, hn⟩, -⟩
          · cases (Option.map_eq_none_iff.mp hcommit).symm.trans hs
          · cases (Option.map_eq_none_iff.mp hcommit).symm.trans hn
      | some commit =>
          obtain ⟨w, hw, hid⟩ := Option.map_eq_some_iff.mp hcommit
          refine ⟨hproject, ?_, hpatch, seen, rfl, hfields⟩
          cases w with
          | string s =>
              obtain rfl := Option.some.inj hid
              exact Or.inl hw
          | number n => exact Or.inr ⟨n, hw, (Option.some.inj hid).symm⟩
          | null | bool | array | object => cases hid

/-- **One element.**  It is read as the record that it states, or is no entry. -/
theorem ofJson_states (hv : v.Distinct) :
    match Record.ofJson v with
    | .ok r => States v r
    | .error _ => ¬ IsEntry v := by
  cases hv with
  | @object members hkeys _ =>
      have hread := Draft.reflects_nil.foldlM_take hkeys
      rw [List.nil_append] at hread
      rw [ofJson]
      cases hfold : members.foldlM Draft.take {} with
      | error fault =>
          rw [hfold] at hread
          exact hread
      | ok d =>
          rw [hfold] at hread
          exact hread.finish
  | null | bool | number | string | array =>
      rintro ⟨⟨members, hmembers⟩, -, -, -⟩
      cases hmembers

/-- A record that is read is stated. -/
theorem states_of_ofJson (hv : v.Distinct) (h : Record.ofJson v = .ok r) : States v r := by
  have hread := ofJson_states hv
  rwa [h] at hread

/-- Where no record is read, there is no entry. -/
theorem not_isEntry_of_ofJson (hv : v.Distinct) {fault : ShapeFault}
    (h : Record.ofJson v = .error fault) : ¬ IsEntry v := by
  have hread := ofJson_states hv
  rwa [h] at hread

end Record

/-! ## Reading the list -/

variable {items : List Json.Value} {records : List Record}

/-- Reading succeeds if every element is read. -/
theorem forall₂_of_recordsFrom {i : Nat} (h : recordsFrom i items = .ok records) :
    List.Forall₂ (fun x r => Record.ofJson x = .ok r) items records := by
  induction items generalizing i records with
  | nil =>
      obtain rfl := Except.ok.inj h
      exact .nil
  | cons x items ih =>
      unfold recordsFrom at h
      split at h
      next => cases h
      next r hr =>
        obtain ⟨rs, hrs, h⟩ := bind_eq_ok_iff.mp h
        obtain rfl := Except.ok.inj h
        exact .cons hr (ih hrs)

/-- Reading stops at the first element that is not read, and names its position. -/
theorem split_of_recordsFrom {i : Nat} {e : CatalogError} (h : recordsFrom i items = .error e) :
    ∃ before x after fault, items = before ++ x :: after ∧
      (∀ y ∈ before, ∃ r, Record.ofJson y = .ok r) ∧ Record.ofJson x = .error fault ∧
      e = wrongShape ("bug record #" ++ toString (i + before.length)) fault.message := by
  induction items generalizing i with
  | nil => cases h
  | cons x items ih =>
      unfold recordsFrom at h
      split at h
      next fault hfault =>
        obtain rfl := Except.error.inj h
        exact ⟨[], x, items, fault, rfl, by simp, hfault, rfl⟩
      next r hr =>
        rcases bind_eq_error_iff.mp h with h | ⟨rs, -, h⟩
        · obtain ⟨before, y, after, fault, rfl, hbefore, hfault, rfl⟩ := ih h
          refine ⟨x :: before, y, after, fault, rfl, ?_, hfault, ?_⟩
          · exact List.forall_mem_cons.mpr ⟨⟨r, hr⟩, hbefore⟩
          · rw [List.length_cons, Nat.add_assoc, Nat.add_comm 1]
        · cases h

/-- The records have identities that are distinct and not seen before. -/
structure Fresh (seen : List (String × String)) (records : List Record) : Prop where
  nodup : (records.map Record.id).Nodup
  unseen : ∀ r ∈ records, r.id ∉ seen

variable {seen : List (String × String)}

theorem Fresh.nil : Fresh seen [] :=
  ⟨List.nodup_nil, by simp⟩

/-- A record is seen by those after it. -/
theorem Fresh.cons (hr : r.id ∉ seen) (h : Fresh (r.id :: seen) records) :
    Fresh seen (r :: records) where
  nodup := by
    refine List.nodup_cons.mpr ⟨fun hmem => ?_, h.nodup⟩
    obtain ⟨x, hx, hid⟩ := List.mem_map.mp hmem
    exact h.unseen x hx (hid ▸ List.mem_cons_self)
  unseen := List.forall_mem_cons.mpr
    ⟨hr, fun x hx hseen => h.unseen x hx (List.mem_cons_of_mem _ hseen)⟩

/-- Without a repeated record, all are fresh. -/
theorem fresh_of_firstRepeated (h : firstRepeated seen records = none) : Fresh seen records := by
  induction records generalizing seen with
  | nil => exact .nil
  | cons r records ih =>
      unfold firstRepeated at h
      split at h
      next => cases h
      next hr => exact .cons hr (ih h)

/-- The first repeated record stands behind fresh ones, and repeats one of them
or one that was seen before. -/
theorem split_of_firstRepeated (h : firstRepeated seen records = some r) :
    ∃ before after, records = before ++ r :: after ∧ Fresh seen before ∧
      (r.id ∈ seen ∨ r.id ∈ before.map Record.id) := by
  induction records generalizing seen with
  | nil => cases h
  | cons first records ih =>
      unfold firstRepeated at h
      split at h
      next hfirst =>
        obtain rfl := Option.some.inj h
        exact ⟨[], records, rfl, .nil, Or.inl hfirst⟩
      next hfirst =>
        obtain ⟨before, after, rfl, hfresh, hrepeated⟩ := ih h
        refine ⟨first :: before, after, rfl, hfresh.cons hfirst, ?_⟩
        -- what was seen in addition is the identity of `first`
        rw [List.map_cons, List.mem_cons]
        rcases hrepeated with hseen | hmem
        · exact (List.mem_cons.mp hseen).elim (fun hid => Or.inr (Or.inl hid)) Or.inl
        · exact Or.inr (Or.inr hmem)

/-- Elements have the identities of the records that they state. -/
theorem map_identity?_eq (h : List.Forall₂ States items records) :
    items.map identity? = (records.map Record.id).map some := by
  induction h with
  | nil => rfl
  | cons hx _ ih => rw [List.map_cons, List.map_cons, List.map_cons, hx.identity?_eq, ih]

/-- What states records is a list of entries. -/
theorem forall_isEntry_of_states (h : List.Forall₂ States items records) :
    ∀ x ∈ items, IsEntry x := by
  induction h with
  | nil => simp
  | cons hx _ ih => exact List.forall_mem_cons.mpr ⟨hx.isEntry, ih⟩

/-- A value with a fault is no bug list. -/
theorem Refusal.not_isBugList {e : CatalogError} (h : Refusal v e) : ¬ IsBugList v := by
  rintro ⟨items, hitems, hentries, hnodup⟩
  cases h with
  | notArray hv => exact hv items hitems
  | notEntry hv _ hx =>
      obtain rfl := Json.Value.array.inj (hitems.symm.trans hv)
      exact hx (hentries _ (List.mem_append_right _ List.mem_cons_self))
  | repeated hv _ _ _ hrepeated =>
      obtain rfl := Json.Value.array.inj (hitems.symm.trans hv)
      rw [List.map_append, List.map_cons, List.nodup_append] at hnodup
      exact hnodup.2.2 _ hrepeated _ List.mem_cons_self rfl

/-- To refuse a value for its fault is faithful. -/
theorem faithful_error {e : CatalogError} (h : Refusal v e) : Faithful v (.error e) where
  accepted_iff := ⟨fun ⟨_, hok⟩ => (by cases hok), fun hlist => absurd hlist h.not_isBugList⟩
  stated _ hok := by cases hok
  refused _ he := Except.error.inj he ▸ h

/-- To accept entries with distinct identities as what they state is faithful. -/
theorem faithful_ok (h : List.Forall₂ States items records)
    (hnodup : (records.map Record.id).Nodup) : Faithful (.array items) (.ok records) where
  accepted_iff := by
    refine ⟨fun _ => ⟨items, rfl, forall_isEntry_of_states h, ?_⟩, fun _ => ⟨records, rfl⟩⟩
    rw [map_identity?_eq h]
    exact hnodup.map fun _ _ hid => Option.some.inj hid
  stated _ hok := ⟨items, rfl, Except.ok.inj hok ▸ h⟩
  refused _ he := by cases he

/-- The elements up to the first repeated record. -/
theorem refusal_of_firstRepeated (h : List.Forall₂ States items records)
    (hrepeated : firstRepeated [] records = some r) :
    Refusal (.array items) (.load "bug list" (.duplicateRecord r.project r.commit)) := by
  obtain ⟨before, after, rfl, hfresh, hmem⟩ := split_of_firstRepeated hrepeated
  -- the elements are cut where the records are
  have hentries := forall_isEntry_of_states h
  have hbefore := List.forall₂_take_append items before (r :: after) h
  obtain ⟨x, rest, hx, -, hrest⟩ :=
    List.forall₂_cons_right_iff.mp (List.forall₂_drop_append items before (r :: after) h)
  have hsplit : items = items.take before.length ++ x :: rest := by
    rw [← hrest, List.take_append_drop]
  rw [hsplit] at hentries
  refine .repeated (congrArg _ hsplit) hentries ?_ hx.identity?_eq ?_
  · rw [map_identity?_eq hbefore]
    exact hfresh.nodup.map fun _ _ hid => Option.some.inj hid
  · rw [map_identity?_eq hbefore, hx.identity?_eq]
    exact List.mem_map_of_mem (hmem.resolve_left List.not_mem_nil)

/-- Reading a value without repeated keys is faithful to it. -/
theorem recordsOfJson_faithful (hv : v.Distinct) : Faithful v (recordsOfJson v) := by
  cases hv with
  | @array items hitems =>
      rw [recordsOfJson]
      cases hread : recordsFrom 0 items with
      | error e =>
          obtain ⟨before, x, after, fault, rfl, hbefore, hfault, rfl⟩ := split_of_recordsFrom hread
          rw [Nat.zero_add]
          refine faithful_error (.notEntry rfl (fun y hy => ?_) ?_ _)
          · obtain ⟨r, hr⟩ := hbefore y hy
            exact (Record.states_of_ofJson (hitems y (List.mem_append_left _ hy)) hr).isEntry
          · exact Record.not_isEntry_of_ofJson
              (hitems x (List.mem_append_right _ List.mem_cons_self)) hfault
      | ok records =>
          have hstates : List.Forall₂ States items records :=
            ((List.forall₂_and_left _ _).mpr ⟨hitems, forall₂_of_recordsFrom hread⟩).imp
              fun _ _ hx => Record.states_of_ofJson hx.1 hx.2
          simp only [bind, Except.bind]
          cases hrepeated : firstRepeated [] records with
          | none => exact faithful_ok hstates (fresh_of_firstRepeated hrepeated).nodup
          | some r => exact faithful_error (refusal_of_firstRepeated hstates hrepeated)
  | null | bool | number | string | object =>
      exact faithful_error (.notArray fun _ h => by cases h)

/-- The records of a bug list that was read have distinct identities. -/
theorem nodup_id_of_readRecords {text : String} (h : readRecords text = .ok records) :
    (records.map Record.id).Nodup := by
  obtain ⟨v, -, hv⟩ := bind_eq_ok_iff.mp h
  cases v with
  | array items =>
      obtain ⟨rs, -, hrs⟩ := bind_eq_ok_iff.mp hv
      split at hrs
      next => cases hrs
      next hfresh =>
        obtain rfl := Except.ok.inj hrs
        exact (fresh_of_firstRepeated hfresh).nodup
  | null | bool | number | string | object => cases hv

/-- Each record is stated by an item. -/
theorem exists_states_of_mem (h : List.Forall₂ States items records) (hr : r ∈ records) :
    ∃ x ∈ items, States x r := by
  induction h with
  | nil => cases hr
  | cons hx _ ih =>
      rcases List.mem_cons.mp hr with rfl | hr
      · exact ⟨_, List.mem_cons_self, hx⟩
      · obtain ⟨x, hmem, hx⟩ := ih hr
        exact ⟨x, List.mem_cons_of_mem _ hmem, hx⟩

/-- A record that a bug list gives. -/
def Record.Given (r : Record) : Prop :=
  ∃ text records, readRecords text = .ok records ∧ r ∈ records

/-- The fields of a record from a bug list: none is named like a member that is
kept by itself, and two containers stand around their values. -/
theorem Record.Given.readable_fields (h : r.Given) :
    ∀ e ∈ r.fields.entries, e.1 ∉ namedKeys ∧ e.2.Readable (Json.maxDepth - 2) := by
  obtain ⟨text, records, hread, hr⟩ := h
  obtain ⟨v, hv, hrecords⟩ := bind_eq_ok_iff.mp hread
  have htext : Json.read? text = some v := by
    unfold readJson at hv
    split at hv
    · next heq => exact heq.trans (congrArg some (Except.ok.inj hv))
    · cases hv
  have hreadable := Json.readable_of_read? htext
  obtain ⟨items, rfl, hstates⟩ :=
    (recordsOfJson_faithful hreadable.distinct).stated records hrecords
  obtain ⟨x, hx, hxr⟩ := exists_states_of_mem hstates hr
  obtain ⟨members, rfl, hfields⟩ := hxr.fields
  have hmembers := (hreadable.of_mem_items _ hx).of_mem_members
  intro e he
  rw [hfields, List.mem_filter] at he
  exact ⟨of_decide_eq_true he.2, hmembers e he.1⟩

/-- **Reading the bug list is faithful.**  A document with a JSON value is
accepted exactly if the value is a bug list, as the records it states, and is
refused for its first fault otherwise. -/
theorem readRecords_faithful {text : String} (h : Json.read? text = some v) :
    Faithful v (readRecords text) := by
  have hread : readRecords text = recordsOfJson v := by
    simp only [readRecords, readJson, h, bind, Except.bind]
  rw [hread]
  exact recordsOfJson_faithful (Json.distinct_of_read? h)

/-- Two elements with one project, and commits written alike, as a number and as a string. -/
def alikeCommits : String :=
  "[\x7b\"project\":\"A\",\"commit\":1\x7d,\x7b\"project\":\"A\",\"commit\":\"1\"\x7d]"

/-- A number and a string that are written alike are one identity. -/
theorem readRecords_faithful_of_alikeCommits :
    ∃ v, Json.read? alikeCommits = some v ∧ Faithful v (readRecords alikeCommits) ∧
      readRecords alikeCommits = .error (.load "bug list" (.duplicateRecord "A" "1")) :=
  ⟨_, rfl, readRecords_faithful rfl, rfl⟩

end DefectCatalog
