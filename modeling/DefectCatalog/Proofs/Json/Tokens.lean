import DefectCatalog.Proofs.Json.Numbers
import DefectCatalog.Proofs.Json.Strings

/-!
# The tokens of a written value

Both ways to write a value, without blanks and over several lines, give a text
that is cut into the same tokens (`spells_compact`, `spells_prettyAt`), those of
the value with the numbers that are read from the texts of its numbers
(`Value.reread`).  They differ in the blanks only, so a container is treated once
for both (`Spells.container`).

A number goes on as far as it can, so where it ends depends on what follows.
The texts here are therefore those that give their tokens in front of everything
a value may end before (`Spells`).
-/

namespace DefectCatalog.Json

/-! ## Texts and tokens -/

/-- A text is cut into tokens, with all fuel that is enough for its length. -/
def Lexed (s : List Char) (ts : List Token) : Prop :=
  ∀ fuel, s.length ≤ fuel → lexWith? fuel s = some ts

/-- A text gives its tokens wherever it stands before the end of a value. -/
def Spells (text : List Char) (tokens : List Token) : Prop :=
  ∀ rest ts, Ends rest → Lexed rest ts → Lexed (text ++ rest) (tokens ++ ts)

/-- Blanks only. -/
def Blank (gap : List Char) : Prop :=
  ∀ c ∈ gap, isBlank c = true

variable {rest : List Char} {ts : List Token}

/-- Nothing holds no token. -/
theorem Lexed.nil : Lexed [] [] := by
  intro fuel _
  cases fuel <;> rfl

/-- Blanks in front of a text make no token. -/
theorem Lexed.blank {gap : List Char} (hgap : Blank gap) (h : Lexed rest ts) :
    Lexed (gap ++ rest) ts := by
  induction gap with
  | nil => exact h
  | cons c gap ih =>
      obtain ⟨hc, hgap⟩ := List.forall_mem_cons.mp hgap
      intro fuel hfuel
      cases fuel with
      | zero => cases hfuel
      | succ fuel =>
          rw [List.cons_append, lexWith?, if_pos hc]
          exact ih hgap fuel (Nat.le_of_succ_le_succ hfuel)

/-- One token in front. -/
theorem Lexed.token {c : Char} {s : List Char} {t : Token} (hc : isBlank c = false)
    (ht : token? c s = some (t, rest)) (hshort : rest.length ≤ s.length) (h : Lexed rest ts) :
    Lexed (c :: s) (t :: ts) := by
  intro fuel hfuel
  cases fuel with
  | zero => cases hfuel
  | succ fuel =>
      have hrest := h fuel (hshort.trans (Nat.le_of_succ_le_succ hfuel))
      rw [lexWith?, if_neg (by simp [hc]), ht, Option.bind_eq_bind, Option.bind_some]
      dsimp only
      rw [hrest]
      rfl

/-- A character that cannot go on a number ends it. -/
theorem ends_cons {c : Char} (h : c.isDigit = false ∧ c ≠ '.' ∧ c ≠ 'e' ∧ c ≠ 'E')
    (rest : List Char) : Ends (c :: rest) := by
  intro d hd
  obtain rfl := Option.some.inj hd
  exact h

/-- Blanks keep a text one that ends a number. -/
theorem Ends.blank {gap : List Char} (hgap : Blank gap) (h : Ends rest) : Ends (gap ++ rest) := by
  cases gap with
  | nil => exact h
  | cons c gap =>
      have hc := hgap c List.mem_cons_self
      refine ends_cons ?_ _
      simp only [isBlank, Bool.or_eq_true, beq_iff_eq] at hc
      rcases hc with ((rfl | rfl) | rfl) | rfl <;> decide

/-! ## Scalars -/

/-- A text whose first character leads to a value spells that value. -/
theorem spells_word {word : List Char} {c : Char} {s : List Char} {v : Value}
    (hword : word = c :: s)
    (hc : isBlank c = false) (ht : ∀ rest, token? c (s ++ rest) = some (.scalar v, rest)) :
    Spells word [.scalar v] := by
  subst hword
  intro rest ts _ h
  exact h.token hc (ht rest) (by simp)

/-- A quoted text spells the text. -/
theorem spells_quote (s : String) : Spells (quote s).toList [.scalar (.string s)] := by
  intro rest ts _ h
  rw [toList_quote, List.cons_append, List.append_assoc]
  refine h.token rfl (token?_literal s rest) ?_
  rw [List.length_append, List.length_append]
  omega

/-- What starts as a number is read as one. -/
theorem token?_number {c : Char} (hc : c.isDigit = true ∨ c = '-') (s : List Char) :
    isBlank c = false ∧
      token? c s = (number? (c :: s)).map fun r => (.scalar (.number r.1), r.2) := by
  have hne : ∀ d : Char, d.isDigit = false → d ≠ '-' → c ≠ d := by
    rintro d hd hminus rfl
    rcases hc with hc | hc
    · rw [hd] at hc
      cases hc
    · exact hminus hc
  constructor
  · simp [isBlank, hne]
  · unfold token?
    split
    iterate 7
      · exact absurd rfl (hne _ rfl (by decide))
    · split
      iterate 3
        · next heq => exact absurd (List.cons.inj heq).1 (hne _ rfl (by decide))
      · rfl

/-- The text of a number spells what the number is reread as. -/
theorem spells_number {n : Number} (hn : n.Fits) :
    Spells n.text.toList [.scalar (.number n.reread)] := by
  intro rest ts hrest h
  obtain ⟨m, hm⟩ := exists_numeral_text n
  obtain ⟨c, s, htext, hc⟩ := m.exists_text_eq_cons
  have hread := number?_text hn hrest
  rw [← hm, htext] at hread ⊢
  obtain ⟨hblank, htoken⟩ := token?_number hc (s ++ rest)
  rw [List.cons_append] at hread ⊢
  rw [hread, Option.map_some] at htoken
  refine h.token hblank htoken ?_
  dsimp only
  rw [List.length_append]
  omega

/-! ## Containers -/

/-- A mark of its own. -/
structure Mark (c : Char) (t : Token) : Prop where
  not_blank : isBlank c = false
  token : ∀ rest, token? c rest = some (t, rest)
  ends : c.isDigit = false ∧ c ≠ '.' ∧ c ≠ 'e' ∧ c ≠ 'E'

theorem mark_comma : Mark ',' .comma := ⟨rfl, fun _ => rfl, by decide⟩

theorem mark_colon : Mark ':' .colon := ⟨rfl, fun _ => rfl, by decide⟩

/-- A mark in front of a text makes a token of its own. -/
theorem Lexed.mark {c : Char} {t : Token} (hc : Mark c t) (h : Lexed rest ts) :
    Lexed (c :: rest) (t :: ts) :=
  h.token hc.not_blank (hc.token rest) (Nat.le_refl _)

/-- Texts on their own, each after a comma and blanks. -/
def further {α : Type} (text : α → List Char) (gap : List Char) (xs : List α) : List Char :=
  xs.flatMap fun x => ',' :: (gap ++ text x)

/-- The tokens of texts that stand each after a comma. -/
def furtherTokens {α : Type} (tokens : α → List Token) (xs : List α) : List Token :=
  xs.flatMap fun x => .comma :: tokens x

/-- Further items begin with a comma, which ends a number. -/
theorem Ends.further {α : Type} (text : α → List Char) (gap : List Char) (xs : List α)
    (h : Ends rest) : Ends (further text gap xs ++ rest) := by
  cases xs with
  | nil => exact h
  | cons x xs => exact ends_cons (by decide) _

variable {α : Type} {text : α → List Char} {tokens : α → List Token} {gap gapClose : List Char}

/-- Further items spell the tokens of each, with a comma before it. -/
theorem spells_further (hgap : Blank gap) {xs : List α}
    (hxs : ∀ x ∈ xs, Spells (text x) (tokens x)) :
    Spells (further text gap xs) (furtherTokens tokens xs) := by
  intro rest ts hrest h
  induction xs with
  | nil => exact h
  | cons x xs ih =>
      obtain ⟨hx, hxs⟩ := List.forall_mem_cons.mp hxs
      have hafter := hx _ _ (hrest.further text gap xs) (ih hxs)
      have hcomma := (hafter.blank hgap).mark mark_comma
      simpa [further, furtherTokens] using hcomma

/-- **A container gives its marks, with the tokens of what it holds between them.** -/
theorem Spells.container {opening closing : Char} {first last : Token}
    (hopening : Mark opening first)
    (hclosing : Mark closing last) (hgap : Blank gap) (hgapClose : Blank gapClose) {x : α}
    {xs : List α} (hall : ∀ y ∈ x :: xs, Spells (text y) (tokens y)) :
    Spells (opening :: (gap ++ (text x ++ (further text gap xs ++ (gapClose ++ [closing])))))
      (first :: (tokens x ++ (furtherTokens tokens xs ++ [last]))) := by
  intro rest ts _ h
  obtain ⟨hx, hxs⟩ := List.forall_mem_cons.mp hall
  have hend : Ends (gapClose ++ closing :: rest) := (ends_cons hclosing.ends rest).blank hgapClose
  have hlast := spells_further hgap hxs _ _ hend ((h.mark hclosing).blank hgapClose)
  have hafter := hx _ _ (hend.further text gap xs) hlast
  simpa using (hafter.blank hgap).mark hopening

/-- A container without contents. -/
theorem Spells.emptyContainer {opening closing : Char} {first last : Token}
    (hopening : Mark opening first) (hclosing : Mark closing last) :
    Spells [opening, closing] [first, last] :=
  fun _ _ _ h => (h.mark hclosing).mark hopening

/-! ## Values -/

/-- All numbers inside a value are numbers that JSON text can give. -/
inductive Value.Sound : Value → Prop
  | null : Sound .null
  | bool (b : Bool) : Sound (.bool b)
  | number {n : Number} (fits : n.Fits) : Sound (.number n)
  | string (s : String) : Sound (.string s)
  | array {items : List Value} (items_sound : ∀ v ∈ items, v.Sound) : Sound (.array items)
  | object {members : List (String × Value)} (members_sound : ∀ m ∈ members, m.2.Sound) :
      Sound (.object members)

mutual

/-- The value with the numbers that are read from the texts of its numbers. -/
def Value.reread : Value → Value
  | .array items => .array (rereadItems items)
  | .object members => .object (rereadMembers members)
  | .number n => .number n.reread
  | .null => .null
  | .bool b => .bool b
  | .string s => .string s

/-- Items one by one. -/
def rereadItems : List Value → List Value
  | [] => []
  | v :: rest => v.reread :: rereadItems rest

/-- The values of members one by one. -/
def rereadMembers : List (String × Value) → List (String × Value)
  | [] => []
  | (k, v) :: rest => (k, v.reread) :: rereadMembers rest

end

/-- The items of an array are reread one by one. -/
theorem rereadItems_eq_map (items : List Value) : rereadItems items = items.map Value.reread := by
  induction items with
  | nil => rfl
  | cons v rest ih => rw [rereadItems, ih, List.map_cons]

/-- The members of an object are reread one by one. -/
theorem rereadMembers_eq_map (members : List (String × Value)) :
    rereadMembers members = members.map fun m => (m.1, m.2.reread) := by
  induction members with
  | nil => rfl
  | cons m rest ih => rw [rereadMembers, ih, List.map_cons]

mutual

/-- The tokens of a value. -/
def Value.tokens : Value → List Token
  | .null => [.scalar .null]
  | .bool b => [.scalar (.bool b)]
  | .number n => [.scalar (.number n)]
  | .string s => [.scalar (.string s)]
  | .array [] => [.openArray, .closeArray]
  | .array (v :: rest) => .openArray :: (v.tokens ++ (itemTokens rest ++ [.closeArray]))
  | .object [] => [.openObject, .closeObject]
  | .object ((k, v) :: rest) =>
    .openObject ::
      (.scalar (.string k) :: .colon :: v.tokens ++ (memberTokens rest ++ [.closeObject]))

/-- The tokens of further items, each after a comma. -/
def itemTokens : List Value → List Token
  | [] => []
  | v :: rest => .comma :: v.tokens ++ itemTokens rest

/-- The tokens of further members, each after a comma. -/
def memberTokens : List (String × Value) → List Token
  | [] => []
  | (k, v) :: rest => .comma :: .scalar (.string k) :: .colon :: v.tokens ++ memberTokens rest

end

/-- The tokens of a member. -/
def tokensOfMember (m : String × Value) : List Token :=
  .scalar (.string m.1) :: .colon :: m.2.tokens

/-- The tokens of reread items are those of each item reread. -/
theorem itemTokens_reread (items : List Value) :
    itemTokens (rereadItems items) = furtherTokens (fun v => v.reread.tokens) items := by
  induction items with
  | nil => rfl
  | cons v rest ih => rw [rereadItems, itemTokens, ih]; rfl

/-- The tokens of reread members are those of each member reread. -/
theorem memberTokens_reread (members : List (String × Value)) :
    memberTokens (rereadMembers members) =
      furtherTokens (fun m => tokensOfMember (m.1, m.2.reread)) members := by
  induction members with
  | nil => rfl
  | cons m rest ih => rw [rereadMembers, memberTokens, ih]; rfl

/-- A member in front of its value. -/
theorem spells_member {gap : List Char} (hgap : Blank gap) {text : List Char} {k : String}
    {v : Value} (h : Spells text v.tokens) :
    Spells ((quote k).toList ++ ':' :: (gap ++ text)) (tokensOfMember (k, v)) := by
  intro rest ts hrest hlexed
  have hvalue := ((h rest ts hrest hlexed).blank hgap).mark mark_colon
  have hkey := spells_quote k _ _ (ends_cons (by decide) _) hvalue
  simpa [tokensOfMember] using hkey

theorem mark_openArray : Mark '[' .openArray := ⟨rfl, fun _ => rfl, by decide⟩

theorem mark_closeArray : Mark ']' .closeArray := ⟨rfl, fun _ => rfl, by decide⟩

theorem mark_openObject : Mark '\x7b' .openObject := ⟨rfl, fun _ => rfl, by decide⟩

theorem mark_closeObject : Mark '\x7d' .closeObject := ⟨rfl, fun _ => rfl, by decide⟩

theorem spells_null : Spells "null".toList [.scalar .null] :=
  spells_word rfl rfl fun _ => rfl

/-- Both truth values are words. -/
theorem spells_bool (b : Bool) :
    Spells (if b then "true" else "false").toList [.scalar (.bool b)] := by
  cases b with
  | true => exact spells_word rfl rfl fun _ => rfl
  | false => exact spells_word rfl rfl fun _ => rfl

/-! ## Without blanks -/

/-- The text of a member without blanks. -/
def compactMember (m : String × Value) : List Char :=
  (quote m.1).toList ++ ':' :: m.2.compact.toList

/-- The items of an array are written one after the other, without blanks. -/
theorem toList_compactItems (v : Value) (rest : List Value) :
    (compactItems (v :: rest)).toList =
      v.compact.toList ++ further (fun w => w.compact.toList) [] rest := by
  induction rest generalizing v with
  | nil => simp [compactItems, further]
  | cons w rest ih =>
      rw [compactItems, String.toList_append, String.toList_append, ih]
      · simp [further]
      · exact List.cons_ne_nil w rest

/-- The members of an object are written one after the other, without blanks. -/
theorem toList_compactMembers (m : String × Value) (rest : List (String × Value)) :
    (compactMembers (m :: rest)).toList = compactMember m ++ further compactMember [] rest := by
  induction rest generalizing m with
  | nil => simp [compactMembers, further, compactMember]
  | cons n rest ih =>
      obtain ⟨k, v⟩ := m
      rw [compactMembers]
      · simp [ih, further, compactMember]
      · exact List.cons_ne_nil n rest

/-- **The text of a value without blanks is cut into its tokens.** -/
theorem spells_compact {v : Value} (hv : v.Sound) : Spells v.compact.toList v.reread.tokens := by
  have hgap : Blank [] := List.forall_mem_nil _
  induction hv with
  | null => rw [Value.compact]; exact spells_null
  | bool b => rw [Value.compact]; exact spells_bool b
  | number fits => rw [Value.compact]; exact spells_number fits
  | string s => rw [Value.compact]; exact spells_quote s
  | @array items _ ih =>
      cases items with
      | nil => exact .emptyContainer mark_openArray mark_closeArray
      | cons v rest =>
          have h := Spells.container mark_openArray mark_closeArray hgap hgap ih
          rw [Value.compact, Value.reread, rereadItems, Value.tokens, itemTokens_reread]
          simpa [toList_compactItems] using h
  | @object members _ ih =>
      cases members with
      | nil => exact .emptyContainer mark_openObject mark_closeObject
      | cons m rest =>
          have hall : ∀ n ∈ m :: rest,
              Spells (compactMember n) (tokensOfMember (n.1, n.2.reread)) :=
            fun n hn => spells_member hgap (ih n hn)
          have h := Spells.container mark_openObject mark_closeObject hgap hgap hall
          rw [Value.compact, Value.reread, rereadMembers, Value.tokens, memberTokens_reread]
          simpa [toList_compactMembers, tokensOfMember] using h

/-! ## Over several lines -/

/-- A new line is a line feed and the blanks of its level. -/
theorem blank_newline (level : Nat) : Blank (newline level).toList := by
  intro c hc
  rw [newline, String.toList_append, List.mem_append] at hc
  rcases hc with hc | hc
  · obtain rfl := List.mem_singleton.mp hc
    rfl
  · rw [String.toList_ofList] at hc
    obtain rfl := List.eq_of_mem_replicate hc
    rfl

/-- The text of a member on its line. -/
def prettyMember (level : Nat) (m : String × Value) : List Char :=
  (quote m.1).toList ++ ':' :: ([' '] ++ (m.2.prettyAt level).toList)

/-- The items of an array are written on a line each. -/
theorem toList_prettyItems (level : Nat) (items : List Value) :
    (prettyItems level items).toList =
      further (fun v => (v.prettyAt level).toList) (newline level).toList items := by
  induction items with
  | nil => rfl
  | cons v rest ih => simp [prettyItems, ih, further]

/-- The members of an object are written on a line each. -/
theorem toList_prettyMembers (level : Nat) (members : List (String × Value)) :
    (prettyMembers level members).toList =
      further (prettyMember level) (newline level).toList members := by
  induction members with
  | nil => rfl
  | cons m rest ih => simp [prettyMembers, ih, further, prettyMember]

/-- **The text of a value over several lines is cut into its tokens.** -/
theorem spells_prettyAt {v : Value} (hv : v.Sound) (level : Nat) :
    Spells (v.prettyAt level).toList v.reread.tokens := by
  have hspace : Blank [' '] := by simp [Blank, isBlank]
  induction hv generalizing level with
  | null => rw [Value.prettyAt]; exact spells_null
  | bool b => rw [Value.prettyAt]; exact spells_bool b
  | number fits => rw [Value.prettyAt]; exact spells_number fits
  | string s => rw [Value.prettyAt]; exact spells_quote s
  | @array items _ ih =>
      cases items with
      | nil =>
          rw [Value.prettyAt]
          exact .emptyContainer mark_openArray mark_closeArray
      | cons v rest =>
          have hall : ∀ w ∈ v :: rest,
              Spells (w.prettyAt (level + 1)).toList w.reread.tokens :=
            fun w hw => ih w hw (level + 1)
          have h := Spells.container mark_openArray mark_closeArray (blank_newline (level + 1))
            (blank_newline level) hall
          rw [Value.prettyAt, Value.reread, rereadItems, Value.tokens, itemTokens_reread]
          simpa [toList_prettyItems] using h
  | @object members _ ih =>
      cases members with
      | nil =>
          rw [Value.prettyAt]
          exact .emptyContainer mark_openObject mark_closeObject
      | cons m rest =>
          have hall : ∀ n ∈ m :: rest,
              Spells (prettyMember (level + 1) n) (tokensOfMember (n.1, n.2.reread)) :=
            fun n hn => spells_member hspace (ih n hn (level + 1))
          have h := Spells.container mark_openObject mark_closeObject (blank_newline (level + 1))
            (blank_newline level) hall
          rw [Value.prettyAt, Value.reread, rereadMembers, Value.tokens, memberTokens_reread]
          simpa [toList_prettyMembers, prettyMember, tokensOfMember] using h

/-- A text that gives its tokens gives them on its own. -/
theorem Spells.lex?_eq {s : String} {tokens : List Token} (h : Spells s.toList tokens) :
    lex? s.toList = some tokens := by
  have hall := h [] [] ends_nil .nil
  rw [List.append_nil, List.append_nil] at hall
  exact hall _ (Nat.le_refl _)

end DefectCatalog.Json
