import DefectCatalog.Text.Blank
import DefectCatalog.Text.Lines
import Mathlib.Data.List.DropRight

/-!
# Cutting text that was put together

A text made of lines, each with its line feed, falls into the same lines again,
except that a carriage return at the end of a line goes with the line feed
(`splitLines_flatMap`).  A run without blanks in front of a blank is the first
word (`words_append_blank`).  Cutting at a separator undoes putting it between two
texts (`splitAt_append`) or between many (`parts_joined`).
-/

namespace DefectCatalog.Text

/-- A line without a carriage return at its end. -/
def chomp (line : List Char) : List Char :=
  if line.getLast? = some '\r' then line.dropLast else line

/-- A line that ends otherwise stays. -/
theorem chomp_of_getLast?_ne {line : List Char} (h : line.getLast? ≠ some '\r') :
    chomp line = line :=
  if_neg h

/-- Only the end of a line matters. -/
theorem chomp_append {start : List Char} (h : start.getLast? ≠ some '\r') (line : List Char) :
    chomp (start ++ line) = start ++ chomp line := by
  cases line with
  | nil => simp [chomp, h]
  | cons c line =>
      unfold chomp
      rw [List.getLast?_append, List.getLast?_cons, Option.some_or]
      split
      · rw [List.dropLast_append_of_ne_nil (List.cons_ne_nil c line)]
      · rfl

/-- Only the end of a line is looked at. -/
theorem chomp_cons_cons (c d : Char) (line : List Char) :
    chomp (c :: d :: line) = c :: chomp (d :: line) := by
  unfold chomp
  rw [List.getLast?_cons_cons, List.dropLast_cons_cons]
  split <;> rfl

/-- A character that ends no line joins the line after it. -/
theorem splitLines_cons_cons {c d : Char} {rest line : List Char} {lines : List (List Char)}
    (hc : c ≠ '\n') (hbreak : c = '\r' → d ≠ '\n') (h : splitLines (d :: rest) = line :: lines) :
    splitLines (c :: d :: rest) = (c :: line) :: lines := by
  rw [splitLines.eq_def]
  split
  · contradiction
  · next heq => exact absurd (List.cons.inj heq).1 hc
  · next heq =>
      obtain ⟨rfl, htail⟩ := List.cons.inj heq
      exact absurd (List.cons.inj htail).1 (hbreak rfl)
  · next heq =>
      obtain ⟨rfl, rfl⟩ := List.cons.inj heq
      simp only [h]

/-- A line feed ends the line before it, and takes a carriage return along. -/
theorem splitLines_append_feed {line : List Char} (h : '\n' ∉ line) (rest : List Char) :
    splitLines (line ++ '\n' :: rest) = chomp line :: splitLines rest := by
  induction line with
  | nil => rfl
  | cons c line ih =>
      rw [List.mem_cons, not_or] at h
      have hline := ih h.2
      cases line with
      | nil =>
          by_cases hc : c = '\r'
          · subst hc
            rfl
          · rw [chomp_of_getLast?_ne (by simpa using hc)]
            exact splitLines_cons_cons (Ne.symm h.1) (fun hr => absurd hr hc) hline
      | cons d line =>
          have hd : d ≠ '\n' := fun heq => h.2 (heq ▸ List.mem_cons_self)
          rw [chomp_cons_cons]
          exact splitLines_cons_cons (Ne.symm h.1) (fun _ => hd) hline

/-- **Lines that were put together fall apart again.** -/
theorem splitLines_flatMap {lines : List (List Char)} (h : ∀ line ∈ lines, '\n' ∉ line) :
    splitLines (lines.flatMap (· ++ ['\n'])) = lines.map chomp := by
  induction lines with
  | nil => rfl
  | cons line lines ih =>
      rw [List.forall_mem_cons] at h
      rw [List.flatMap_cons, List.append_assoc, List.singleton_append,
        splitLines_append_feed h.1, ih h.2, List.map_cons]

/-- A blank in front makes no word. -/
theorem words_cons_of_isBlank {c : Char} (hc : isBlank c) (rest : List Char) :
    words (c :: rest) = words rest :=
  if_pos hc

/-- A blank ends the word before it. -/
theorem words_cons_blank {c b : Char} (hc : isBlank c = false) (hb : isBlank b)
    (rest : List Char) : words (c :: b :: rest) = [c] :: words rest := by
  rw [words.eq_def]
  simp [hc, hb, words_cons_of_isBlank hb]

/-- A character joins the word after it. -/
theorem words_cons_cons {c d : Char} (hc : isBlank c = false) (hd : isBlank d = false)
    {rest word : List Char} {ws : List (List Char)} (h : words (d :: rest) = word :: ws) :
    words (c :: d :: rest) = (c :: word) :: ws := by
  rw [words.eq_def]
  simp [hc, hd, h]

/-- A run without blanks is a word if a blank follows it. -/
theorem words_append_blank {word : List Char} (hne : word ≠ [])
    (hword : ∀ c ∈ word, isBlank c = false) {b : Char} (hb : isBlank b) (rest : List Char) :
    words (word ++ b :: rest) = word :: words rest := by
  induction word with
  | nil => exact absurd rfl hne
  | cons c word ih =>
      rw [List.forall_mem_cons] at hword
      cases word with
      | nil => exact words_cons_blank hword.1 hb rest
      | cons d word =>
          have hd := hword.2 d List.mem_cons_self
          exact words_cons_cons hword.1 hd (ih (List.cons_ne_nil d word) hword.2)

/-! ## Cutting at a separator -/

section Separator

variable {sep : Char}

theorem splitAt_ne_nil (sep : Char) (s : List Char) : splitAt sep s ≠ [] := by
  cases s with
  | nil => simp [splitAt]
  | cons c rest =>
      unfold splitAt
      split
      · split <;> simp
      · simp

/-- The parts of two texts with the separator between them are those of both. -/
theorem splitAt_append (before after : List Char) :
    splitAt sep (before ++ sep :: after) = splitAt sep before ++ splitAt sep after := by
  induction before with
  | nil =>
      obtain ⟨part, parts, hafter⟩ := List.exists_cons_of_ne_nil (splitAt_ne_nil sep after)
      simp [splitAt, hafter]
  | cons c before ih =>
      obtain ⟨part, parts, hbefore⟩ := List.exists_cons_of_ne_nil (splitAt_ne_nil sep before)
      rw [List.cons_append, splitAt, ih, splitAt, hbefore]
      by_cases hc : c = sep
      · simp [hc]
      · simp [hc]

/-- Without a separator there is one part. -/
theorem splitAt_of_not_mem {s : List Char} (h : sep ∉ s) : splitAt sep s = [s] := by
  induction s with
  | nil => rfl
  | cons c rest ih =>
      rw [List.mem_cons, not_or] at h
      have hc : c ≠ sep := Ne.symm h.1
      simp [splitAt, ih h.2, hc]

/-- Together, the parts are the text without its separators. -/
theorem flatten_splitAt (s : List Char) : (splitAt sep s).flatten = s.filter (· ≠ sep) := by
  induction s with
  | nil => rfl
  | cons c s ih =>
      obtain ⟨part, parts, hs⟩ := List.exists_cons_of_ne_nil (splitAt_ne_nil sep s)
      rw [List.filter_cons, ← ih, splitAt, hs]
      by_cases hc : c = sep
      · simp [hc]
      · simp [hc]

/-- No part holds the separator. -/
theorem not_mem_of_mem_splitAt {s part : List Char} (h : part ∈ splitAt sep s) : sep ∉ part := by
  induction s generalizing part with
  | nil =>
      have hpart : part = [] := by simpa [splitAt] using h
      simp [hpart]
  | cons c rest ih =>
      obtain ⟨first, others, hrest⟩ := List.exists_cons_of_ne_nil (splitAt_ne_nil sep rest)
      have hfirst : sep ∉ first := ih (hrest ▸ List.mem_cons_self)
      have hothers : ∀ p ∈ others, sep ∉ p := fun p hp => ih (hrest ▸ List.mem_cons_of_mem _ hp)
      rw [splitAt, hrest] at h
      dsimp only at h
      split at h
      · rcases List.mem_cons.mp h with rfl | h
        · exact List.not_mem_nil
        · exact (List.mem_cons.mp h).elim (fun heq => heq ▸ hfirst) (hothers part)
      · next hc =>
          rcases List.mem_cons.mp h with rfl | h
          · exact List.not_mem_cons_of_ne_of_not_mem (Ne.symm hc) hfirst
          · exact hothers part h

/-- A text without the separator goes to the end of the last part of the text before it. -/
theorem splitAt_append_of_not_mem {t : List Char} (h : sep ∉ t) (s : List Char) :
    ∃ before last, splitAt sep s = before ++ [last] ∧
      splitAt sep (s ++ t) = before ++ [last ++ t] := by
  induction s with
  | nil => exact ⟨[], [], rfl, splitAt_of_not_mem h⟩
  | cons c s ih =>
      obtain ⟨before, last, hs, hst⟩ := ih
      by_cases hc : c = sep
      · refine ⟨[] :: before, last, ?_, ?_⟩
        · cases before <;> simp [splitAt, hs, hc]
        · cases before <;> simp [splitAt, hst, hc]
      · cases before with
        | nil => exact ⟨[], c :: last, by simp [splitAt, hs, hc], by simp [splitAt, hst, hc]⟩
        | cons part parts =>
            exact ⟨(c :: part) :: parts, last, by simp [splitAt, hs, hc],
              by simp [splitAt, hst, hc]⟩

/-- There is a part more than separators. -/
theorem length_splitAt (s : List Char) : (splitAt sep s).length = s.count sep + 1 := by
  induction s with
  | nil => rfl
  | cons c s ih =>
      obtain ⟨part, parts, hs⟩ := List.exists_cons_of_ne_nil (splitAt_ne_nil sep s)
      rw [hs] at ih
      rw [splitAt, hs]
      by_cases hc : c = sep
      · subst hc
        rw [List.count_cons_self, ← ih]
        simp
      · rw [List.count_cons_of_ne hc, ← ih]
        simp [hc]

/-- There is a part more than separators in a string. -/
theorem length_parts (s : String) : (parts sep s).length = s.toList.count sep + 1 := by
  rw [parts, List.length_map, length_splitAt]

/-- A string without a separator is one part. -/
theorem parts_of_not_mem {s : String} (h : sep ∉ s.toList) : parts sep s = [s] := by
  rw [parts, splitAt_of_not_mem h, List.map_singleton, String.ofList_toList]

/-- **The parts of texts with the separator between any two** are those of each of them. -/
theorem parts_joined {separator : String} (hsep : separator.toList = [sep]) {ss : List String}
    (hne : ss ≠ []) : parts sep (joined separator ss) = ss.flatMap (parts sep) := by
  induction ss with
  | nil => exact absurd rfl hne
  | cons s ss ih =>
      cases ss with
      | nil => simp [joined]
      | cons t ss =>
          have hparts : parts sep (s ++ separator ++ joined separator (t :: ss)) =
              parts sep s ++ parts sep (joined separator (t :: ss)) := by
            simp only [parts, String.toList_append, hsep, List.append_assoc,
              List.singleton_append, splitAt_append, List.map_append]
          rw [List.flatMap_cons, ← ih (List.cons_ne_nil t ss), ← hparts, joined,
            String.intercalate_cons_cons, joined]

/-- Texts without the separator are their own parts. -/
theorem flatMap_parts_of_not_mem {ss : List String} (h : ∀ s ∈ ss, sep ∉ s.toList) :
    ss.flatMap (parts sep) = ss := by
  induction ss with
  | nil => rfl
  | cons s ss ih =>
      rw [List.forall_mem_cons] at h
      rw [List.flatMap_cons, parts_of_not_mem h.1, ih h.2, List.singleton_append]

/-- Texts fall into at least as many parts, and into as many if none holds the separator. -/
theorem length_flatMap_parts (ss : List String) :
    ss.length ≤ (ss.flatMap (parts sep)).length ∧
      ((ss.flatMap (parts sep)).length = ss.length ↔ ∀ s ∈ ss, sep ∉ s.toList) := by
  induction ss with
  | nil => simp
  | cons s ss ih =>
      rw [List.flatMap_cons, List.length_append, length_parts, List.length_cons,
        List.forall_mem_cons, ← ih.2, ← List.count_eq_zero]
      omega

end Separator

/-! ## Blanks at the end -/

/-- Nothing is trimmed up to the last character that is not blank. -/
theorem trimRight_append_cons {c : Char} (hc : isBlank c = false) (before after : List Char) :
    trimRight (before ++ c :: after) = before ++ c :: trimRight after := by
  have hstop : (c :: before.reverse).dropWhile isBlank = c :: before.reverse := by
    simp [hc]
  have hreverse : (before ++ c :: after).reverse = after.reverse ++ c :: before.reverse := by
    simp
  rw [trimRight, trimRight, hreverse, List.dropWhile_append, hstop]
  split
  · next hempty => simp [List.isEmpty_iff.mp hempty]
  · simp

/-- A text without a blank at its end is left as it is. -/
theorem trimRight_eq_self_iff {s : List Char} :
    trimRight s = s ↔ ∀ c ∈ s.getLast?, isBlank c = false := by
  refine List.rdropWhile_eq_self_iff.trans ⟨?_, ?_⟩
  · intro h c hc
    obtain ⟨hne, rfl⟩ := List.mem_getLast?_eq_getLast hc
    exact Bool.eq_false_iff.mpr (h hne)
  · intro h hne
    exact Bool.eq_false_iff.mp (h _ (List.getLast?_eq_some_getLast hne))

/-- After trimming, no blank is at the end. -/
theorem not_isBlank_of_mem_getLast?_trimRight {s : List Char} :
    ∀ c ∈ (trimRight s).getLast?, isBlank c = false :=
  trimRight_eq_self_iff.mp (List.rdropWhile_idempotent isBlank s)

/-- Blanks are trimmed off the second of two texts first. -/
theorem trimRight_append (s t : List Char) :
    trimRight (s ++ t) = if trimRight t = [] then trimRight s else s ++ trimRight t := by
  simp only [trimRight, List.reverse_append, List.dropWhile_append, List.reverse_eq_nil_iff,
    List.isEmpty_iff]
  split
  · rfl
  · rw [List.reverse_append, List.reverse_reverse]

/-- Only blanks are trimmed off. -/
theorem isBlank_of_mem_drop_trimRight {c : Char} {s : List Char}
    (h : c ∈ s.drop (trimRight s).length) : isBlank c := by
  have hsplit : trimRight s ++ s.rtakeWhile isBlank = s := List.rdropWhile_append_rtakeWhile
  have hrest := congrArg (List.drop (trimRight s).length) hsplit
  rw [List.drop_left] at hrest
  exact List.mem_rtakeWhile_imp (hrest ▸ h)

/-- Nothing is left exactly of blanks. -/
theorem trimRight_eq_nil_iff {s : List Char} : trimRight s = [] ↔ ∀ c ∈ s, isBlank c :=
  List.rdropWhile_eq_nil_iff

theorem mem_of_mem_trimRight {c : Char} {s : List Char} (h : c ∈ trimRight s) : c ∈ s :=
  (List.rdropWhile_prefix isBlank s).subset h

end DefectCatalog.Text
