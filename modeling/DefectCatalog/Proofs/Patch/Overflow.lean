import DefectCatalog.Proofs.Patch.Stretches

/-!
# Overflow of the line counters

The counters of a patch start from numbers that its hunk headers give and move on
with every line, also with those after the hunk.  A patch is read exactly if they
stay within 64 bits at all of its lines (`readLines?_eq_some_iff`), and then as it
would be without that limit.  A counter is moved on from the greatest number
exactly if some stretch has more lines of a side than there are numbers left after
the start of its range (`overflows_iff`).
-/

namespace DefectCatalog.Patch

variable {c : Counters} {ranges : Range × Range} {texts : List String}

/-! ## Within 64 bits -/

/-- The numbers of the next lines have 64 bits. -/
def Counters.Fits (c : Counters) : Prop :=
  ∀ s, c.next s ≤ Decimal.wordLimit

theorem Counters.fit_iff (c : Counters) : c.fit ↔ c.Fits := by
  rw [fit, Bool.and_eq_true, decide_eq_true_iff, decide_eq_true_iff]
  constructor
  · intro h s
    cases s with
    | old => exact h.1
    | new => exact h.2
  · intro h
    exact ⟨h .old, h .new⟩

theorem Counters.fits_zero : Counters.Fits {} := fun s => by cases s <;> exact Nat.zero_le _

/-- What holds past every beginning of some texts holds at the start, and past every beginning
of the texts after the first. -/
theorem Counters.forall_past_cons {p : Counters → Prop} (text : String) (texts : List String) :
    (∀ before after, text :: texts = before ++ after → p (c.past before)) ↔
      p c ∧ ∀ before after, texts = before ++ after → p ((readLine c text).2.past before) := by
  constructor
  · intro h
    refine ⟨h [] (text :: texts) rfl, ?_⟩
    intro before after hsplit
    exact h (text :: before) after (by rw [hsplit, List.cons_append])
  · intro h before after hsplit
    cases before with
    | nil => exact h.1
    | cons first before =>
        rw [List.cons_append, List.cons.injEq] at hsplit
        obtain ⟨rfl, hsplit⟩ := hsplit
        exact h.2 before after hsplit

/-- **Lines are read exactly if the counters fit at each of them**, and then with the
numbers that they have without a limit. -/
theorem readLines?_eq_some_iff (hfits : c.Fits) {lines : List Line} :
    readLines? c texts = some lines ↔
      lines = unlimited c texts ∧
        ∀ before after, texts = before ++ after → (c.past before).Fits := by
  induction texts generalizing c lines with
  | nil =>
      have hpast : ∀ before after, [] = before ++ after → (c.past before).Fits := by
        intro before after hsplit
        obtain ⟨rfl, -⟩ := List.append_eq_nil_iff.mp hsplit.symm
        exact hfits
      rw [readLines?, Option.some.injEq, eq_comm, unlimited, and_iff_left hpast]
  | cons text texts ih =>
      rw [Counters.forall_past_cons, and_iff_right hfits, readLines?, unlimited]
      dsimp only
      by_cases hfit : (readLine c text).2.fit
      · rw [if_pos hfit, Option.map_eq_some_iff]
        simp only [ih ((Counters.fit_iff _).mp hfit)]
        constructor
        · intro h
          obtain ⟨rest, ⟨rfl, hpast⟩, rfl⟩ := h
          exact ⟨rfl, hpast⟩
        · intro h
          exact ⟨_, ⟨rfl, h.2⟩, h.1.symm⟩
      · rw [if_neg hfit]
        constructor
        · intro h
          cases h
        · intro h
          exact absurd ((Counters.fit_iff _).mpr (h.2 [] texts rfl)) hfit

/-- A line has the number that the counter of its side stands at, if any. -/
theorem eq_next_of_number_readLine {text : String} {s : Side} {n : Nat}
    (h : (readLine c text).1.number s = some n) : n = c.next s := by
  cases hopens : opens? text with
  | some ranges =>
      rw [readLine_of_opens c hopens] at h
      cases s <;> cases h
  | none =>
      rw [(readLine_of_closed c hopens).1, Counters.numbered] at h
      simp only [Option.ite_none_right_eq_some, Option.some.injEq] at h
      exact h.2.2.symm

/-! ## The stretch a line is in -/

/-- All lines that were read end in a stretch. -/
theorem exists_opening (texts : List String) :
    ∃ front during ranges, texts = front ++ during ∧ Opening front ranges ∧ Closed during := by
  induction texts using List.reverseRecOn with
  | nil => exact ⟨[], [], _, rfl, .start, List.forall_mem_nil _⟩
  | append_singleton texts text ih =>
      cases hopens : opens? text with
      | some ranges =>
          exact ⟨texts ++ [text], [], ranges, by simp, .header texts hopens, List.forall_mem_nil _⟩
      | none =>
          obtain ⟨front, during, ranges, rfl, hopening, hclosed⟩ := ih
          refine ⟨front, during ++ [text], ranges, by simp, hopening, ?_⟩
          exact List.forall_mem_append.mpr ⟨hclosed, List.forall_mem_singleton.mpr hopens⟩

namespace Opening

variable {front during : List String} (h : Opening front ranges) (hclosed : Closed during)
include h hclosed

/-- Lines after an opening, up to the next one, are a stretch. -/
theorem stretch (after : List String) :
    Stretch (unlimited {} (front ++ (during ++ after))) ranges
      (unlimited (.ofRanges ranges) during) := by
  have hbody : ∀ l ∈ unlimited (.ofRanges ranges) during, opens? l.text = none :=
    forall_mem_unlimited.mpr hclosed
  cases h with
  | start => exact .first (unlimited_append _ during after) hbody
  | @header texts text _ opens =>
      have hread := readLine_of_opens (Counters.past {} texts) opens
      have hsplit : unlimited {} ((texts ++ [text]) ++ (during ++ after)) =
          unlimited {} texts ++ (readLine (Counters.past {} texts) text).1 ::
            (unlimited (.ofRanges ranges) during ++
              unlimited (Counters.past (.ofRanges ranges) during) after) := by
        rw [List.append_assoc, List.singleton_append, unlimited_append, unlimited, hread,
          unlimited_append]
      exact .opened hsplit (by rw [text_readLine, opens]) hbody

/-- The counters at the end of a stretch. -/
theorem next_eq (s : Side) :
    (Counters.past {} (front ++ during)).next s =
      (s.range ranges).start + (unlimited (.ofRanges ranges) during).countP (·.isOn s) := by
  rw [Counters.past_append, h.past_eq, next_past hclosed, Counters.next_ofRanges]

end Opening

/-! ## Overflow -/

/-- At some line of the patch, a counter moves on from the greatest number. -/
def Overflows (patch : String) : Prop :=
  ∃ before text after s, Text.lines patch = before ++ text :: after ∧
    (readLine (Counters.past {} before) text).1.isOn s ∧
    (Counters.past {} before).next s = Decimal.wordLimit

/-- Where more items count than a number says, one counts after just as many. -/
theorem exists_split_of_lt_countP {α : Type} {p : α → Bool} {items : List α} {n : Nat}
    (h : n < items.countP p) :
    ∃ before a after, items = before ++ a :: after ∧ p a ∧ before.countP p = n := by
  induction items generalizing n with
  | nil => cases h
  | cons a items ih =>
      rw [List.countP_cons] at h
      by_cases ha : p a
      · cases n with
        | zero => exact ⟨[], a, items, rfl, ha, rfl⟩
        | succ n =>
            rw [if_pos ha] at h
            obtain ⟨before, b, after, rfl, hb, hcount⟩ := ih (Nat.lt_of_succ_lt_succ h)
            exact ⟨a :: before, b, after, rfl, hb, by rw [List.countP_cons, if_pos ha, hcount]⟩
      · rw [if_neg ha] at h
        obtain ⟨before, b, after, rfl, hb, hcount⟩ := ih h
        exact ⟨a :: before, b, after, rfl, hb, by rw [List.countP_cons, if_neg ha, hcount]; rfl⟩

/-- A line of a file is no hunk header. -/
theorem closed_of_isOn {text : String} {s : Side} (h : (readLine c text).1.isOn s) :
    opens? text = none := by
  cases hopens : opens? text with
  | none => rfl
  | some ranges =>
      rw [readLine_of_opens c hopens] at h
      cases h

/-- A stretch that has more lines of a side than there are numbers after its start. -/
def Exceeds (texts : List String) : Prop :=
  ∃ ranges body, Stretch (unlimited {} texts) ranges body ∧
    ∃ s, Decimal.wordLimit < (s.range ranges).start + body.countP (·.isOn s)

/-- Within a stretch, the counters stay within 64 bits if the stretch does not exceed them. -/
theorem fits_past_of_not_exceeds (h : ¬ Exceeds texts) {before after : List String}
    (hsplit : texts = before ++ after) : (Counters.past {} before).Fits := by
  intro s
  obtain ⟨front, during, ranges, rfl, hopening, hclosed⟩ := exists_opening before
  rw [hopening.next_eq hclosed]
  refine Nat.le_of_not_lt fun hlt => h ⟨ranges, _, ?_, s, hlt⟩
  rw [hsplit, List.append_assoc]
  exact hopening.stretch hclosed after

/-- A stretch that exceeds 64 bits moves a counter on from the greatest number. -/
theorem exists_move_of_exceeds (h : Exceeds texts) :
    ∃ before text after s, texts = before ++ text :: after ∧
      (readLine (Counters.past {} before) text).1.isOn s ∧
      (Counters.past {} before).next s = Decimal.wordLimit := by
  obtain ⟨ranges, body, hstretch, s, hpast⟩ := h
  obtain ⟨front, during, after, rfl, hopening, hclosed, rfl⟩ := hstretch.exists_opening
  have hstart : (s.range ranges).start ≤ Decimal.wordLimit := hopening.start_le s
  have hcount : Decimal.wordLimit - (s.range ranges).start <
      (unlimited (.ofRanges ranges) during).countP (·.isOn s) :=
    Nat.sub_lt_left_of_lt_add hstart hpast
  obtain ⟨lines, l, _, hsplit, hon, hlines⟩ := exists_split_of_lt_countP hcount
  obtain ⟨texts₁, text, texts₂, rfl, rfl, rfl, -⟩ := exists_of_unlimited_eq_append_cons hsplit
  obtain ⟨hbefore, -⟩ := List.forall_mem_append.mp hclosed
  refine ⟨front ++ texts₁, text, texts₂ ++ after, s, by simp, ?_, ?_⟩
  · rw [Counters.past_append, hopening.past_eq]
    exact hon
  · rw [hopening.next_eq hbefore, hlines, Nat.add_sub_cancel' hstart]

/-- Where a counter moves on from the greatest number, it does not fit any more. -/
theorem not_fits_of_move {text : String} {s : Side} (hon : (readLine c text).1.isOn s)
    (hlast : c.next s = Decimal.wordLimit) : ¬ (readLine c text).2.Fits := by
  have hopens : opens? text = none := closed_of_isOn hon
  intro h
  have hnext := h s
  rw [next_readLine c hopens, if_pos hon, hlast] at hnext
  exact Nat.lt_irrefl _ hnext

/-- **A patch is read exactly if none of its stretches exceeds 64 bits.** -/
theorem readLines?_zero_eq_some_iff {lines : List Line} :
    readLines? {} texts = some lines ↔ lines = unlimited {} texts ∧ ¬ Exceeds texts := by
  rw [readLines?_eq_some_iff Counters.fits_zero]
  apply and_congr_right
  intro _
  constructor
  · intro hpast hexceeds
    obtain ⟨before, text, after, s, hsplit, hon, hlast⟩ := exists_move_of_exceeds hexceeds
    have hfits := hpast (before ++ [text]) after (by rw [hsplit, List.append_assoc]; rfl)
    rw [Counters.past_append] at hfits
    exact not_fits_of_move hon hlast hfits
  · intro h before after hsplit
    exact fits_past_of_not_exceeds h hsplit

/-- **When the counters overflow.**  Reading a patch ends without a result exactly if a
counter is moved on from the greatest number, which is so exactly if some stretch has more
lines of a side than there are numbers after its start.  Otherwise every number that a
counter takes, and so every line number, has 64 bits. -/
theorem overflows_iff (patch : String) :
    (parse? patch = none ↔ Overflows patch) ∧
    (Overflows patch ↔ ∃ ranges body, Stretch (unlimited {} (Text.lines patch)) ranges body ∧
      ∃ s, Decimal.wordLimit < (s.range ranges).start + body.countP (·.isOn s)) ∧
    ∀ lines, parse? patch = some lines →
      (∀ before after, Text.lines patch = before ++ after →
        ∀ s, (Counters.past {} before).next s ≤ Decimal.wordLimit) ∧
      ∀ l ∈ lines, ∀ s n, l.number s = some n → n ≤ Decimal.wordLimit := by
  have hexceeds : Overflows patch ↔ Exceeds (Text.lines patch) := by
    constructor
    · intro h
      obtain ⟨before, text, after, s, hsplit, hon, hlast⟩ := h
      by_contra hnot
      have hfits : (Counters.past {} (before ++ [text])).Fits :=
        fits_past_of_not_exceeds hnot (by rw [hsplit, List.append_assoc]; rfl)
      rw [Counters.past_append] at hfits
      exact not_fits_of_move hon hlast hfits
    · exact exists_move_of_exceeds
  refine ⟨?_, hexceeds, fun lines h => ?_⟩
  · rw [hexceeds, parse?, Option.eq_none_iff_forall_ne_some]
    simp only [ne_eq, readLines?_zero_eq_some_iff, not_and, Classical.not_not]
    exact ⟨fun h => h _ rfl, fun h _ _ => h⟩
  · obtain ⟨rfl, hpast⟩ := (readLines?_eq_some_iff Counters.fits_zero).mp h
    refine ⟨hpast, fun l hl s n hnumber => ?_⟩
    obtain ⟨front, after, hsplit⟩ := List.append_of_mem hl
    obtain ⟨texts₁, text, texts₂, htexts, -, rfl, -⟩ := exists_of_unlimited_eq_append_cons hsplit
    rw [eq_next_of_number_readLine hnumber]
    exact hpast texts₁ (text :: texts₂) htexts s

/-- A hunk that starts at the greatest number of 64 bits. -/
def atLimit : String :=
  "@@ -18446744073709551615,2 +1,2 @@\n a\n b\n"

/-- A hunk that starts just before that number. -/
def beforeLimit : String :=
  "@@ -18446744073709551614,1 +1,1 @@\n a\n"

theorem overflows_iff_of_beforeLimit :
    (parse? beforeLimit).isSome ∧ ¬ Overflows beforeLimit ∧
      (Counters.past {} (Text.lines beforeLimit)).next .old ≤ Decimal.wordLimit := by
  let lines : List Line :=
    [⟨.hunkHeader, none, none, "@@ -18446744073709551614,1 +1,1 @@"⟩,
      ⟨.context, some 18446744073709551614, some 1, " a"⟩]
  have hlines : parse? beforeLimit = some lines := by decide
  obtain ⟨hnone, -, hfits⟩ := overflows_iff beforeLimit
  refine ⟨by rw [hlines]; rfl, fun h => ?_, ?_⟩
  · rw [← hnone, hlines] at h
    cases h
  · exact (hfits lines hlines).1 _ [] (List.append_nil _).symm .old

/-- The first line of the hunk moves the counter of the old file on from the greatest
number, and nothing of the patch is returned. -/
theorem overflow_atLimit : Overflows atLimit ∧ parse? atLimit = none :=
  ⟨⟨["@@ -18446744073709551615,2 +1,2 @@"], " a", [" b"], .old, by decide, by decide, by decide⟩,
    by decide⟩

end DefectCatalog.Patch
