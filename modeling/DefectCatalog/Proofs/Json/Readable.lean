import DefectCatalog.Json.Reader
import DefectCatalog.Proofs.Json.Numbers
import DefectCatalog.Proofs.OrderedMap.Lookup

/-!
# The values that are read

The reader adds each member by its key, so no object inside a value that it
answers names a key twice; containers nest as deep as it allows, and numbers are
those that fit (`Value.Readable`).  The invariant is carried along the containers
that are open: what they hold may nest less, the more of them there are
(`Open`), and every token keeps it (`ReaderState.Readable.step`).
-/

namespace DefectCatalog

namespace Json

/-- No object inside a value names a key twice. -/
inductive Value.Distinct : Value → Prop
  | null : Distinct .null
  | bool (b : Bool) : Distinct (.bool b)
  | number (n : Number) : Distinct (.number n)
  | string (s : String) : Distinct (.string s)
  | array {items : List Value} (items_distinct : ∀ v ∈ items, v.Distinct) :
      Distinct (.array items)
  | object {members : List (String × Value)} (keys_nodup : (Keyed.keys members).Nodup)
      (members_distinct : ∀ m ∈ members, m.2.Distinct) : Distinct (.object members)

/-- A value that text can give, in which containers nest at most `n` deep. -/
inductive Value.Readable : Nat → Value → Prop
  | null {n : Nat} : Readable n .null
  | bool {n : Nat} (b : Bool) : Readable n (.bool b)
  | number {n : Nat} {x : Number} (fits : x.Fits) : Readable n (.number x)
  | string {n : Nat} (s : String) : Readable n (.string s)
  | array {n : Nat} {items : List Value} (items_readable : ∀ v ∈ items, v.Readable n) :
      Readable (n + 1) (.array items)
  | object {n : Nat} {members : List (String × Value)} (keys_nodup : (Keyed.keys members).Nodup)
      (members_readable : ∀ m ∈ members, m.2.Readable n) : Readable (n + 1) (.object members)

namespace Value.Readable

variable {n : Nat} {v : Value}

/-- A readable value has no member twice. -/
theorem distinct (h : v.Readable n) : v.Distinct := by
  induction h with
  | null => exact .null
  | bool b => exact .bool b
  | number _ => exact .number _
  | string s => exact .string s
  | array _ ih => exact .array ih
  | object hkeys _ ih => exact .object hkeys ih

/-- What can be read with less room can be read with more. -/
theorem mono {m : Nat} (h : v.Readable n) (hm : n ≤ m) : v.Readable m := by
  induction h generalizing m with
  | null => exact .null
  | bool b => exact .bool b
  | number fits => exact .number fits
  | string s => exact .string s
  | array _ ih =>
      obtain ⟨m, rfl⟩ := Nat.exists_eq_add_of_le' (Nat.le_of_add_left_le hm)
      exact .array fun v hv => ih v hv (Nat.le_of_add_le_add_right hm)
  | object hkeys _ ih =>
      obtain ⟨m, rfl⟩ := Nat.exists_eq_add_of_le' (Nat.le_of_add_left_le hm)
      exact .object hkeys fun e he => ih e he (Nat.le_of_add_le_add_right hm)

/-- The items of a readable array are readable with one container less. -/
theorem of_mem_items {items : List Value} (h : (Value.array items).Readable (n + 1)) :
    ∀ w ∈ items, w.Readable n := by
  cases h with
  | array hitems => exact hitems

/-- The members of a readable object are readable with one container less. -/
theorem of_mem_members {members : List (String × Value)}
    (h : (Value.object members).Readable (n + 1)) : ∀ m ∈ members, m.2.Readable n := by
  cases h with
  | object _ hmembers => exact hmembers

/-- A further item keeps an array readable. -/
theorem push {items : List Value} (h : (Value.array items).Readable (n + 1)) (hv : v.Readable n) :
    (Value.array (items ++ [v])).Readable (n + 1) := by
  cases h with
  | array hitems =>
      refine .array fun w hw => ?_
      rcases List.mem_append.mp hw with hw | hw
      · exact hitems w hw
      · exact List.mem_singleton.mp hw ▸ hv

/-- An object with one more member, or with another value of a member. -/
theorem put {members : List (String × Value)} (h : (Value.object members).Readable (n + 1))
    (k : String) (hv : v.Readable n) :
    (Value.object (Keyed.put members k v)).Readable (n + 1) := by
  cases h with
  | object hkeys hmembers =>
      refine .object (Keyed.nodup_keys_put hkeys k v) fun m hm => ?_
      rcases Keyed.mem_put hm with hm | rfl
      · exact hmembers m hm
      · exact hv

end Value.Readable

/-! ## Tokens -/

/-- The scalar of a token, if it is one, is readable. -/
def Token.Readable : Token → Prop
  | .scalar v => ∀ n, v.Readable n
  | _ => True

/-- A number that is read fits. -/
theorem fits_of_number? {s rest : List Char} {x : Number} (h : number? s = some (x, rest)) :
    x.Fits := by
  unfold number? at h
  split at h
  dsimp only at h
  split at h
  · cases h
  · simp only [Option.bind_eq_bind, Option.bind_eq_some_iff] at h
    obtain ⟨⟨frac, _⟩, -, ⟨exponent, _⟩, -, y, hy, h⟩ := h
    obtain ⟨rfl, -⟩ := Prod.mk.inj (Option.some.inj h)
    exact fits_of_numberOfParts? hy

/-- A scalar that is read off a text has no members at all. -/
theorem readable_of_token? {c : Char} {rest rest' : List Char} {t : Token}
    (h : token? c rest = some (t, rest')) : t.Readable := by
  unfold token? at h
  split at h
  iterate 6
    · obtain ⟨rfl, -⟩ := Prod.mk.inj (Option.some.inj h)
      trivial
  · simp only [Option.bind_eq_bind, Option.bind_eq_some_iff] at h
    obtain ⟨_, -, cs, -, h⟩ := h
    obtain ⟨rfl, -⟩ := Prod.mk.inj (Option.some.inj h)
    exact fun _ => .string _
  · split at h
    · obtain ⟨rfl, -⟩ := Prod.mk.inj (Option.some.inj h)
      exact fun _ => .bool _
    · obtain ⟨rfl, -⟩ := Prod.mk.inj (Option.some.inj h)
      exact fun _ => .bool _
    · obtain ⟨rfl, -⟩ := Prod.mk.inj (Option.some.inj h)
      exact fun _ => .null
    · obtain ⟨_, hnumber, h⟩ := Option.map_eq_some_iff.mp h
      obtain ⟨rfl, -⟩ := Prod.mk.inj h
      exact fun _ => .number (fits_of_number? hnumber)

/-- All values in the tokens of a text are readable. -/
theorem readable_of_lexWith? {fuel : Nat} {s : List Char} {ts : List Token}
    (h : lexWith? fuel s = some ts) : ∀ t ∈ ts, t.Readable := by
  induction fuel generalizing s ts with
  | zero =>
      cases s with
      | nil =>
          obtain rfl := Option.some.inj h
          simp
      | cons c rest => cases h
  | succ fuel ih =>
      cases s with
      | nil =>
          obtain rfl := Option.some.inj h
          simp
      | cons c rest =>
          unfold lexWith? at h
          split at h
          · exact ih h
          · simp only [Option.bind_eq_bind, Option.bind_eq_some_iff] at h
            obtain ⟨⟨t, rest'⟩, ht, ts', hts, h⟩ := h
            obtain rfl := Option.some.inj h
            exact List.forall_mem_cons.mpr ⟨readable_of_token? ht, ih hts⟩

/-! ## The grammar -/

/-- What an open container holds, as a value. -/
def Frame.value : Frame → Value
  | .array before => .array before
  | .object before _ => .object before

/-- Containers that may be open, the innermost first: around each there is room for it. -/
def Open : List Frame → Prop
  | [] => True
  | f :: outer => outer.length < maxDepth ∧ f.value.Readable (maxDepth - outer.length) ∧ Open outer

/-- All that has been read is readable, with what may still come inside it. -/
def ReaderState.Readable : ReaderState → Prop
  | .value outer => Open outer
  | .firstItem outer => Open (.array [] :: outer)
  | .afterItem items outer => Open (.array items :: outer)
  | .key members _ outer | .afterMember members outer => Open (.object members "" :: outer)
  | .colon members k outer => Open (.object members k :: outer)
  | .done v => v.Readable maxDepth

/-- A container that is opened is empty, and there is room for it. -/
theorem open_empty {outer : List Frame} (hdepth : outer.length < maxDepth) (houter : Open outer) :
    Open (.array [] :: outer) ∧ Open (.object [] "" :: outer) := by
  obtain ⟨n, hn⟩ := Nat.exists_eq_succ_of_ne_zero (Nat.sub_ne_zero_of_lt hdepth)
  refine ⟨⟨hdepth, ?_, houter⟩, ⟨hdepth, ?_, houter⟩⟩ <;> rw [hn]
  · exact .array (List.forall_mem_nil _)
  · exact .object List.nodup_nil (List.forall_mem_nil _)

/-- A complete value has a place in the container around it. -/
theorem readable_complete {v : Value} {outer : List Frame}
    (hv : v.Readable (maxDepth - outer.length)) (houter : Open outer) :
    (complete v outer).Readable := by
  cases outer with
  | nil => exact hv
  | cons f outer =>
      obtain ⟨hdepth, hf, houter⟩ := houter
      have hroom : maxDepth - outer.length = maxDepth - (f :: outer).length + 1 := by
        rw [List.length_cons]
        omega
      rw [hroom] at hf
      cases f with
      | array before => exact ⟨hdepth, hroom ▸ hf.push hv, houter⟩
      | object before k => exact ⟨hdepth, hroom ▸ hf.put k hv, houter⟩

/-- A value or a container that begins keeps the reader's state readable. -/
theorem readable_startValue {outer : List Frame} (houter : Open outer) {t : Token}
    (ht : t.Readable) {s : ReaderState} (h : startValue outer t = some s) : s.Readable := by
  unfold startValue at h
  split at h
  · obtain rfl := Option.some.inj h
    exact readable_complete (ht _) houter
  · split at h
    · next hdepth =>
        obtain rfl := Option.some.inj h
        exact (open_empty hdepth houter).1
    · cases h
  · split at h
    · next hdepth =>
        obtain rfl := Option.some.inj h
        exact (open_empty hdepth houter).2
    · cases h
  · cases h

/-- **One token keeps what has been read readable.** -/
theorem ReaderState.Readable.step {s s' : ReaderState} (hs : s.Readable) {t : Token}
    (ht : t.Readable) (h : s.step? t = some s') : s'.Readable := by
  unfold step? at h
  split at h
  case h_1 => exact readable_startValue hs ht h
  case h_3 => exact readable_startValue hs ht h
  case h_11 => cases h
  all_goals obtain rfl := Option.some.inj h
  case h_2 | h_5 | h_7 | h_10 => exact readable_complete hs.2.1 hs.2.2
  all_goals exact hs

/-- Reading tokens keeps the state readable. -/
theorem ReaderState.Readable.run {s s' : ReaderState} (hs : s.Readable) {ts : List Token}
    (hts : ∀ t ∈ ts, t.Readable) (h : s.run? ts = some s') : s'.Readable := by
  induction ts generalizing s with
  | nil => exact Option.some.inj h ▸ hs
  | cons t ts ih =>
      rw [List.forall_mem_cons] at hts
      obtain ⟨next, hstep, hrun⟩ := Option.bind_eq_some_iff.mp h
      exact ih (hs.step hts.1 hstep) hts.2 hrun

/-- **A value that was read is readable.** -/
theorem readable_of_read? {text : String} {v : Value} (h : read? text = some v) :
    v.Readable maxDepth := by
  simp only [read?, Option.bind_eq_bind, Option.bind_eq_some_iff] at h
  obtain ⟨ts, hlex, s, hrun, h⟩ := h
  have hdone : s.Readable :=
    ReaderState.Readable.run (s := .value []) trivial (readable_of_lexWith? hlex) hrun
  split at h
  · exact Option.some.inj h ▸ hdone
  · cases h

/-- No object of a value that was read names a key twice. -/
theorem distinct_of_read? {text : String} {v : Value} (h : read? text = some v) : v.Distinct :=
  (readable_of_read? h).distinct

end Json

end DefectCatalog
