import DefectCatalog.Proofs.Patch.Reading

/-!
# The stretches of a patch

Nothing is known about the text of a patch that a record brings along: headers
may be unreadable, counts wrong, lines missing.  Still, from one hunk header with
readable ranges to the next one the numbers of either side run on from the start
of its range, one for every line of that side, until the lines that the header
announces are used up on both sides (`Stretch.numbered`).  This is about the lines
as they are read if numbers have no limit (`unlimited`).
-/

namespace DefectCatalog.Patch

/-! ## Sides -/

/-- A side of a diff. -/
inductive Side where
  | old
  | new
deriving DecidableEq, Repr

/-- The range of a side among the ranges of a hunk header. -/
def Side.range (ranges : Range × Range) : Side → Range
  | old => ranges.1
  | new => ranges.2

def Mark.isOn (m : Mark) : Side → Bool
  | .old => m.onOld
  | .new => m.onNew

namespace Counters

/-- The number of the next line of a side. -/
def next (c : Counters) : Side → Nat
  | .old => c.old
  | .new => c.new

/-- How many lines of the hunk are left on a side. -/
def left (c : Counters) : Side → Nat
  | .old => c.oldLeft
  | .new => c.newLeft

/-- The counters at the first line of a hunk. -/
def ofRanges (ranges : Range × Range) : Counters :=
  ⟨ranges.1.start, ranges.2.start, ranges.1.count, ranges.2.count⟩

/-- A hunk header starts the counters of both sides. -/
theorem next_ofRanges (ranges : Range × Range) (s : Side) :
    (ofRanges ranges).next s = (s.range ranges).start := by
  cases s <;> rfl

/-- A hunk header says how many lines of both sides follow. -/
theorem left_ofRanges (ranges : Range × Range) (s : Side) :
    (ofRanges ranges).left s = (s.range ranges).count := by
  cases s <;> rfl

end Counters

namespace Line

/-- The number of a line in the file of a side. -/
def number (l : Line) : Side → Option Nat
  | .old => l.old
  | .new => l.new

/-- What a line is, if it is no header. -/
def mark? (l : Line) : Option Mark :=
  match l.kind with
  | .fileHeader | .hunkHeader => none
  | .addition => some .addition
  | .deletion => some .deletion
  | .context => some (if l.text.toList.head? = some '\\' then .remark else .context)

/-- A context line with a backslash in front is a remark. -/
theorem mark?_remark {old new : Option Nat} {text : String} (h : text.toList.head? = some '\\') :
    (⟨.context, old, new, text⟩ : Line).mark? = some .remark := by
  simp [mark?, h]

theorem mark?_context {old new : Option Nat} {text : String} (h : text.toList.head? ≠ some '\\') :
    (⟨.context, old, new, text⟩ : Line).mark? = some .context := by
  simp [mark?, h]

/-- Whether a line is a line of the file of a side. -/
def isOn (l : Line) (s : Side) : Bool :=
  l.mark?.any (·.isOn s)

/-- An addition, a deletion, or a context line other than a remark. -/
def IsCounted (l : Line) : Prop :=
  ∃ s, l.isOn s

def IsNumbered (l : Line) : Prop :=
  ∃ s, (l.number s).isSome

end Line

/-- The ranges that the counters start from after a line: those of a hunk header,
if they can be read. -/
def opens? (text : String) : Option (Range × Range) :=
  match text.toList with
  | '@' :: '@' :: _ => ranges? text.toList
  | _ => none

/-- The numbers that occur on a side, in order. -/
def numbers (s : Side) (lines : List Line) : List Nat :=
  lines.filterMap (·.number s)

/-- Lines with no hunk header that can be read among them: the first lines of a patch,
which count as if empty ranges came before them, or lines right after such a header. -/
inductive Stretch (lines : List Line) : Range × Range → List Line → Prop
  | first {body after : List Line} (split : lines = body ++ after)
      (closed : ∀ l ∈ body, opens? l.text = none) : Stretch lines (⟨0, 0⟩, ⟨0, 0⟩) body
  | opened {before body after : List Line} {header : Line} {ranges : Range × Range}
      (split : lines = before ++ header :: (body ++ after))
      (opens : opens? header.text = some ranges) (closed : ∀ l ∈ body, opens? l.text = none) :
      Stretch lines ranges body

/-- How the lines of a stretch are numbered. -/
structure Numbered (ranges : Range × Range) (body : List Line) : Prop where
  /-- A line is numbered on its sides while there were fewer lines before it on
  some side than the header announces. -/
  number_eq_some_iff : ∀ before l after, body = before ++ l :: after → ∀ s n,
    l.number s = some n ↔ l.isOn s ∧
      (∃ s', before.countP (·.isOn s') < (s'.range ranges).count) ∧
      n = (s.range ranges).start + before.countP (·.isOn s)
  /-- The numbers of a side are consecutive from its start on. -/
  consecutive : ∀ s, numbers s body =
    List.range' (s.range ranges).start (numbers s body).length
  /-- Among the lines of the files, the numbered ones come first. -/
  first : body.Pairwise fun l l' => l.IsCounted → l'.IsNumbered → l.IsNumbered

/-! ## One line -/

section OneLine

variable (c : Counters) {text : String}

/-- A hunk header that can be read sets the counters, and has no numbers. -/
theorem readLine_of_opens {ranges : Range × Range} (h : opens? text = some ranges) :
    readLine c text = (⟨.hunkHeader, none, none, text⟩, .ofRanges ranges) := by
  unfold opens? at h
  split at h
  · next heq =>
      rw [heq] at h
      simp only [readLine, heq, h]
      rfl
  · cases h

theorem text_readLine : (readLine c text).1.text = text := by
  unfold readLine
  dsimp only
  split
  · rfl
  · split_ifs <;> rfl
  · rfl

/-- A hunk header that cannot be read leaves the counters alone. -/
theorem readLine_of_unreadable (hsigns : "@@".toList <+: text.toList)
    (hranges : ranges? text.toList = none) :
    readLine c text = (⟨.hunkHeader, none, none, text⟩, c) := by
  obtain ⟨rest, heq⟩ := hsigns
  replace heq : text.toList = '@' :: '@' :: rest := heq.symm
  simp only [readLine, hranges]
  rw [heq]
  rfl

/-- Any line but a hunk header that can be read is numbered on its sides while the hunk
has lines, and moves the counters past what it is. -/
theorem readLine_of_closed (h : opens? text = none) :
    (∀ s, (readLine c text).1.number s =
      if (readLine c text).1.isOn s then c.numbered (c.next s) else none) ∧
    (readLine c text).2 = (readLine c text).1.mark?.elim c c.pass := by
  unfold readLine
  dsimp only
  split
  · next rest heq =>
      -- a hunk header, whose ranges cannot be read
      have hranges : ranges? ('@' :: '@' :: rest) = none := by simpa only [opens?, heq] using h
      rw [heq, hranges]
      exact ⟨fun s => by cases s <;> rfl, rfl⟩
  · next first rest _ heq =>
      have hhead : text.toList.head? = some first := by rw [heq, List.head?_cons]
      -- a file header, a remark, an addition, a deletion, or context
      split_ifs with hfile hremark hadded hremoved
      · exact ⟨fun s => by cases s <;> rfl, rfl⟩
      · rw [hremark] at hhead
        simp only [Line.isOn, Line.mark?_remark hhead]
        exact ⟨fun s => by cases s <;> rfl, rfl⟩
      · exact ⟨fun s => by cases s <;> rfl, rfl⟩
      · exact ⟨fun s => by cases s <;> rfl, rfl⟩
      · have hcontext : text.toList.head? ≠ some '\\' := by simpa [hhead] using hremark
        simp only [Line.isOn, Line.mark?_context hcontext]
        exact ⟨fun s => by cases s <;> rfl, rfl⟩
  · next heq =>
      have hcontext : text.toList.head? ≠ some '\\' := by simp [heq]
      simp only [Line.isOn, Line.mark?_context hcontext]
      exact ⟨fun s => by cases s <;> rfl, rfl⟩

/-- The number of a side moves on with the lines of that side. -/
theorem next_readLine (h : opens? text = none) (s : Side) :
    (readLine c text).2.next s =
      if (readLine c text).1.isOn s then c.next s + 1 else c.next s := by
  rw [(readLine_of_closed c h).2, Line.isOn]
  cases (readLine c text).1.mark? with
  | none => rfl
  | some m => cases m <;> cases s <;> rfl

/-- A line of a side leaves one line less on it. -/
theorem left_readLine (h : opens? text = none) (s : Side) :
    (readLine c text).2.left s =
      if (readLine c text).1.isOn s then c.left s - 1 else c.left s := by
  rw [(readLine_of_closed c h).2, Line.isOn]
  cases (readLine c text).1.mark? with
  | none => rfl
  | some m => cases m <;> cases s <;> rfl

/-- A hunk goes on as long as lines of a side are left. -/
theorem Counters.inHunk_iff : c.inHunk ↔ ∃ s, 0 < c.left s := by
  constructor
  · intro h
    rcases (Bool.or_eq_true _ _).mp h with h | h
    · exact ⟨.old, of_decide_eq_true h⟩
    · exact ⟨.new, of_decide_eq_true h⟩
  · rintro ⟨s, h⟩
    cases s <;> simp_all [inHunk, left]

/-- A line is numbered exactly if it is a line of a file and inside the hunk. -/
theorem isNumbered_readLine_iff (h : opens? text = none) :
    (readLine c text).1.IsNumbered ↔ (readLine c text).1.IsCounted ∧ c.inHunk := by
  unfold Line.IsNumbered Line.IsCounted
  simp only [(readLine_of_closed c h).1, Counters.numbered]
  cases c.inHunk <;> simp

end OneLine

/-! ## Some lines -/

section SomeLines

variable {c : Counters} {texts : List String}

/-- The lines as they are read if their numbers have no limit. -/
def unlimited (c : Counters) : List String → List Line
  | [] => []
  | text :: rest => (readLine c text).1 :: unlimited (readLine c text).2 rest

/-- The counters after some lines. -/
def Counters.past (c : Counters) (texts : List String) : Counters :=
  texts.foldl (fun c text => (readLine c text).2) c

theorem Counters.past_cons (c : Counters) (text : String) (texts : List String) :
    c.past (text :: texts) = (readLine c text).2.past texts :=
  rfl

/-- Every line is shown, with its text. -/
theorem map_text_unlimited (c : Counters) (texts : List String) :
    (unlimited c texts).map Line.text = texts := by
  induction texts generalizing c with
  | nil => rfl
  | cons text texts ih => rw [unlimited, List.map_cons, text_readLine, ih]

/-- Reading goes on with the counters of before. -/
theorem unlimited_append (c : Counters) (texts texts' : List String) :
    unlimited c (texts ++ texts') = unlimited c texts ++ unlimited (c.past texts) texts' := by
  induction texts generalizing c with
  | nil => rfl
  | cons text texts ih =>
      rw [List.cons_append, unlimited, unlimited, ih, Counters.past_cons,
        List.cons_append]

/-- Where the lines that are shown can be cut, the text can be cut. -/
theorem exists_of_unlimited_eq_append {before after : List Line}
    (h : unlimited c texts = before ++ after) :
    ∃ texts₁ texts₂, texts = texts₁ ++ texts₂ ∧ before = unlimited c texts₁ ∧
      after = unlimited (c.past texts₁) texts₂ := by
  have htexts : texts = before.map Line.text ++ after.map Line.text := by
    rw [← List.map_append, ← h, map_text_unlimited]
  have hlength : before.length = (unlimited c (before.map Line.text)).length := by
    have hmap := congrArg List.length (map_text_unlimited c (before.map Line.text))
    simpa using hmap.symm
  rw [htexts, unlimited_append] at h
  obtain ⟨hbefore, hafter⟩ := List.append_inj h hlength.symm
  exact ⟨_, _, htexts, hbefore.symm, hafter.symm⟩

/-- The counters past a text are those past its second part, from past the first one. -/
theorem Counters.past_append (c : Counters) (texts texts' : List String) :
    c.past (texts ++ texts') = (c.past texts).past texts' :=
  List.foldl_append

/-- The texts of the lines that are read are those that were given. -/
theorem forall_mem_unlimited {p : String → Prop} :
    (∀ l ∈ unlimited c texts, p l.text) ↔ ∀ text ∈ texts, p text := by
  rw [← List.forall_mem_map, map_text_unlimited]

/-- A line that is shown is read after the lines before it. -/
theorem exists_of_unlimited_eq_append_cons {before after : List Line} {l : Line}
    (h : unlimited c texts = before ++ l :: after) :
    ∃ texts₁ text texts₂, texts = texts₁ ++ text :: texts₂ ∧ before = unlimited c texts₁ ∧
      l = (readLine (c.past texts₁) text).1 ∧
      after = unlimited (readLine (c.past texts₁) text).2 texts₂ := by
  obtain ⟨texts₁, texts₂, htexts, hbefore, hrest⟩ := exists_of_unlimited_eq_append h
  cases texts₂ with
  | nil => cases hrest
  | cons text texts₂ =>
      rw [unlimited] at hrest
      obtain ⟨hl, hafter⟩ := List.cons.inj hrest
      exact ⟨texts₁, text, texts₂, htexts, hbefore, hl, hafter⟩

/-- Among the texts, no hunk header can be read. -/
def Closed (texts : List String) : Prop :=
  ∀ text ∈ texts, opens? text = none

/-- Without another hunk header, a counter moves on by the lines of its side. -/
theorem next_past (hclosed : Closed texts) (s : Side) :
    (c.past texts).next s = c.next s + (unlimited c texts).countP (·.isOn s) := by
  induction texts generalizing c with
  | nil => rfl
  | cons text texts ih =>
      obtain ⟨htext, hclosed⟩ := List.forall_mem_cons.mp hclosed
      have hnext := next_readLine c htext s
      rw [Counters.past_cons, unlimited, List.countP_cons, ih hclosed, hnext]
      split_ifs <;> omega

/-- Without another hunk header, the lines of a side are used up one by one. -/
theorem left_past (hclosed : Closed texts) (s : Side) :
    (c.past texts).left s = c.left s - (unlimited c texts).countP (·.isOn s) := by
  induction texts generalizing c with
  | nil => rfl
  | cons text texts ih =>
      obtain ⟨htext, hclosed⟩ := List.forall_mem_cons.mp hclosed
      rw [Counters.past_cons, unlimited, List.countP_cons, ih hclosed, left_readLine c htext]
      split_ifs <;> omega

/-- Once the lines that were announced are used up, no line is numbered until the
next hunk. -/
theorem not_isNumbered_of_not_inHunk (hclosed : Closed texts) (hidle : ¬ c.inHunk) :
    ∀ l ∈ unlimited c texts, ¬ l.IsNumbered := by
  induction texts generalizing c with
  | nil => exact List.forall_mem_nil _
  | cons text texts ih =>
      obtain ⟨htext, hclosed⟩ := List.forall_mem_cons.mp hclosed
      rw [unlimited, List.forall_mem_cons, isNumbered_readLine_iff c htext]
      refine ⟨fun h => hidle h.2, ih hclosed fun h => ?_⟩
      obtain ⟨s, hs⟩ := (Counters.inHunk_iff _).mp h
      refine hidle ((Counters.inHunk_iff c).mpr ⟨s, ?_⟩)
      rw [left_readLine c htext] at hs
      split_ifs at hs <;> omega

/-- Lines without numbers have none on either side. -/
theorem numbers_eq_nil {s : Side} {lines : List Line} (h : ∀ l ∈ lines, ¬ l.IsNumbered) :
    numbers s lines = [] := by
  rw [numbers, List.filterMap_eq_nil_iff]
  intro l hl
  exact Option.not_isSome_iff_eq_none.mp fun hsome => h l hl ⟨s, hsome⟩

theorem numbers_cons (s : Side) (l : Line) (lines : List Line) :
    numbers s (l :: lines) = (l.number s).toList ++ numbers s lines := by
  rw [numbers, List.filterMap_cons]
  cases l.number s <;> rfl

/-- The numbers of a side are consecutive from where its counter stands. -/
theorem exists_numbers_unlimited (hclosed : Closed texts) (s : Side) :
    ∃ k, numbers s (unlimited c texts) = List.range' (c.next s) k := by
  induction texts generalizing c with
  | nil => exact ⟨0, rfl⟩
  | cons text texts ih =>
      obtain ⟨htext, hclosed'⟩ := List.forall_mem_cons.mp hclosed
      by_cases hidle : c.inHunk
      case neg => exact ⟨0, numbers_eq_nil (not_isNumbered_of_not_inHunk hclosed hidle)⟩
      have hnumber := (readLine_of_closed c htext).1 s
      have hnext := next_readLine c htext s
      rw [Counters.numbered, if_pos hidle] at hnumber
      rw [unlimited, numbers_cons]
      obtain ⟨k, hk⟩ := ih (c := (readLine c text).2) hclosed'
      rw [hk, hnumber, hnext]
      split_ifs
      · exact ⟨k + 1, rfl⟩
      · exact ⟨k, rfl⟩

/-- Among the lines of the files, the numbered ones come first. -/
theorem pairwise_unlimited (hclosed : Closed texts) :
    (unlimited c texts).Pairwise fun l l' => l.IsCounted → l'.IsNumbered → l.IsNumbered := by
  induction texts generalizing c with
  | nil => exact .nil
  | cons text texts ih =>
      obtain ⟨htext, hclosed'⟩ := List.forall_mem_cons.mp hclosed
      rw [unlimited, List.pairwise_cons]
      refine ⟨fun l' hl' hcounted hnumbered => ?_, ih hclosed'⟩
      refine (isNumbered_readLine_iff c htext).mpr ⟨hcounted, ?_⟩
      by_contra hidle
      exact not_isNumbered_of_not_inHunk hclosed hidle l' (List.mem_cons_of_mem _ hl') hnumbered

/-- The number of a line, from the lines before it. -/
theorem number_eq_some_iff_of_split (hclosed : Closed texts) {before after : List Line} {l : Line}
    (hsplit : unlimited c texts = before ++ l :: after) (s : Side) (n : Nat) :
    l.number s = some n ↔ l.isOn s ∧ (∃ s', before.countP (·.isOn s') < c.left s') ∧
      n = c.next s + before.countP (·.isOn s) := by
  obtain ⟨texts₁, text, texts₂, rfl, rfl, rfl, -⟩ := exists_of_unlimited_eq_append_cons hsplit
  obtain ⟨hbefore, hhere⟩ := List.forall_mem_append.mp hclosed
  have htext : opens? text = none := hhere text List.mem_cons_self
  have hopen : (c.past texts₁).inHunk ↔
      ∃ s', (unlimited c texts₁).countP (·.isOn s') < c.left s' := by
    simp only [Counters.inHunk_iff, left_past hbefore, Nat.sub_pos_iff_lt]
  rw [(readLine_of_closed _ htext).1, Counters.numbered, next_past hbefore, ← hopen]
  simp only [Option.ite_none_right_eq_some, Option.some.injEq]
  rw [eq_comm (a := n)]

end SomeLines

/-! ## Stretches -/

section Stretches

variable {ranges : Range × Range} {body : List Line} {texts : List String}

/-- A range that can be read starts within 64 bits. -/
theorem Range.start_le_of_parse? {chars : List Char} {r : Range}
    (h : Range.parse? chars = some r) : r.start ≤ Decimal.wordLimit := by
  obtain ⟨start, hstart, h⟩ := Option.bind_eq_some_iff.mp h
  have hle : start ≤ Decimal.wordLimit := Decimal.le_of_word? hstart
  split at h
  · obtain rfl := Option.some.inj h
    exact hle
  · obtain ⟨count, -, h⟩ := Option.bind_eq_some_iff.mp h
    obtain rfl := Option.some.inj h
    exact hle

/-- The numbers of a hunk header that can be read have 64 bits. -/
theorem start_le_of_opens? {text : String} (h : opens? text = some ranges) (s : Side) :
    (s.range ranges).start ≤ Decimal.wordLimit := by
  unfold opens? ranges? at h
  split at h
  case h_2 => cases h
  split at h
  case h_2 => cases h
  obtain ⟨old, hold, h⟩ := Option.bind_eq_some_iff.mp h
  obtain ⟨new, hnew, h⟩ := Option.bind_eq_some_iff.mp h
  obtain rfl := Option.some.inj h
  cases s with
  | old => exact Range.start_le_of_parse? hold
  | new => exact Range.start_le_of_parse? hnew

/-- Texts that a stretch follows: none at all, or some up to a hunk header that can
be read. -/
inductive Opening : List String → Range × Range → Prop
  | start : Opening [] (⟨0, 0⟩, ⟨0, 0⟩)
  | header (texts : List String) {text : String} {ranges : Range × Range}
      (opens : opens? text = some ranges) : Opening (texts ++ [text]) ranges

namespace Opening

variable {front : List String} (h : Opening front ranges)
include h

/-- Past a hunk header the counters are those of its ranges. -/
theorem past_eq : Counters.past {} front = .ofRanges ranges := by
  cases h with
  | start => rfl
  | header texts opens =>
      rw [Counters.past_append, Counters.past_cons, readLine_of_opens _ opens]
      rfl

/-- A stretch starts within 64 bits. -/
theorem start_le (s : Side) : (s.range ranges).start ≤ Decimal.wordLimit := by
  cases h with
  | start => cases s <;> exact Nat.zero_le _
  | header _ opens => exact start_le_of_opens? opens s

end Opening

/-- A stretch is read from the counters that its ranges give. -/
theorem Stretch.exists_opening (h : Stretch (unlimited {} texts) ranges body) :
    ∃ front during after, texts = front ++ (during ++ after) ∧ Opening front ranges ∧
      Closed during ∧ unlimited (.ofRanges ranges) during = body := by
  cases h with
  | first split closed =>
      obtain ⟨during, after, rfl, rfl, -⟩ := exists_of_unlimited_eq_append split
      exact ⟨[], during, after, rfl, .start, forall_mem_unlimited.mp closed, rfl⟩
  | opened split opens closed =>
      obtain ⟨texts₁, text, texts₂, rfl, -, rfl, hrest⟩ := exists_of_unlimited_eq_append_cons split
      rw [text_readLine] at opens
      rw [readLine_of_opens _ opens] at hrest
      obtain ⟨during, after, rfl, rfl, -⟩ := exists_of_unlimited_eq_append hrest.symm
      exact ⟨texts₁ ++ [text], during, after, by simp, .header texts₁ opens,
        forall_mem_unlimited.mp closed, rfl⟩

/-- **The lines of a stretch are numbered as its ranges say.** -/
theorem Stretch.numbered (h : Stretch (unlimited {} texts) ranges body) :
    Numbered ranges body := by
  obtain ⟨front, during, -, -, hopening, hclosed, rfl⟩ := h.exists_opening
  refine ⟨fun before l after hsplit s n => ?_, fun s => ?_, pairwise_unlimited hclosed⟩
  · simpa only [Counters.next_ofRanges, Counters.left_ofRanges] using
      number_eq_some_iff_of_split hclosed hsplit s n
  · obtain ⟨k, hk⟩ := exists_numbers_unlimited (c := .ofRanges ranges) hclosed s
    rw [hk, List.length_range', Counters.next_ofRanges]

end Stretches

end DefectCatalog.Patch
