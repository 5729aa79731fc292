import DefectCatalog.Proofs.Patch.Overflow

/-!
# The line numbers of any patch

Where numbers of 64 bits are enough for the lines of each stretch, reading a patch
gives every line with its text, and the numbers of a stretch are consecutive from
the starts of its ranges on (`numbered_parse`).  Where they are not, nothing is
returned at all.
-/

namespace DefectCatalog.Patch

/-- **The numbers of any patch.**  Its lines are returned exactly if there are numbers for
the lines of every stretch.  Then every line is there with its text; none is numbered
before a hunk header can be read, and after one the lines are numbered as its ranges say,
up to the next one.  A hunk header that cannot be read leaves the counters alone. -/
theorem numbered_parse (patch : String) :
    ((parse? patch).isSome ↔
      ∀ ranges body, Stretch (unlimited {} (Text.lines patch)) ranges body →
        ∀ s, (s.range ranges).start + body.countP (·.isOn s) ≤ Decimal.wordLimit) ∧
    (∀ lines, parse? patch = some lines →
      lines.map Line.text = Text.lines patch ∧
      (∀ before after, lines = before ++ after → (∀ l ∈ before, opens? l.text = none) →
        ∀ l ∈ before, ¬ l.IsNumbered) ∧
      ∀ ranges body, Stretch lines ranges body → Numbered ranges body) ∧
    ∀ before text after, Text.lines patch = before ++ text :: after →
      "@@".toList <+: text.toList → ranges? text.toList = none →
      Counters.past {} (before ++ [text]) = Counters.past {} before := by
  refine ⟨?_, fun lines h => ?_, ?_⟩
  · have hroom : (∀ ranges body, Stretch (unlimited {} (Text.lines patch)) ranges body →
        ∀ s, (s.range ranges).start + body.countP (·.isOn s) ≤ Decimal.wordLimit) ↔
        ¬ Exceeds (Text.lines patch) := by
      simp only [Exceeds, not_exists, not_and, Nat.not_lt]
    rw [hroom, Option.isSome_iff_exists]
    simp only [parse?, readLines?_zero_eq_some_iff, exists_eq_left]
  · obtain ⟨rfl, -⟩ := readLines?_zero_eq_some_iff.mp h
    refine ⟨map_text_unlimited _ _, ?_, fun ranges body hstretch => hstretch.numbered⟩
    intro before after hsplit hclosed
    obtain ⟨texts₁, -, -, rfl, -⟩ := exists_of_unlimited_eq_append hsplit
    exact not_isNumbered_of_not_inHunk (forall_mem_unlimited.mp hclosed) Bool.false_ne_true
  · intro before text _ _ hsigns hranges
    rw [Counters.past_append, Counters.past_cons, readLine_of_unreadable _ hsigns hranges]
    rfl

/-- A patch with a hunk header that cannot be read before one that can, a remark,
and a line after the hunk. -/
def straggling : String :=
  "--- a/x\n@@ -1 @@\n@@ -5,2 +7,3 @@\n a\n\\ none\n+b\n c\n d\n"

theorem numbered_parse_of_straggling :
    ∃ front header body, parse? straggling = some (front ++ header :: body) ∧
      (∀ l ∈ front, ¬ l.IsNumbered) ∧ Numbered (⟨5, 2⟩, ⟨7, 3⟩) body ∧
      numbers .old body = [5, 6] ∧ numbers .new body = [7, 8, 9] ∧
      Counters.past {} ["--- a/x", "@@ -1 @@"] = Counters.past {} ["--- a/x"] := by
  let front : List Line :=
    [⟨.fileHeader, none, none, "--- a/x"⟩, ⟨.hunkHeader, none, none, "@@ -1 @@"⟩]
  let header : Line := ⟨.hunkHeader, none, none, "@@ -5,2 +7,3 @@"⟩
  let body : List Line :=
    [⟨.context, some 5, some 7, " a"⟩, ⟨.context, none, none, "\\ none"⟩,
      ⟨.addition, none, some 8, "+b"⟩, ⟨.context, some 6, some 9, " c"⟩,
      ⟨.context, none, none, " d"⟩]
  have hlines : parse? straggling = some (front ++ header :: body) := by decide
  have hsplit : front ++ header :: body = front ++ header :: (body ++ []) := rfl
  have hstretch : Stretch (front ++ header :: body) (⟨5, 2⟩, ⟨7, 3⟩) body :=
    .opened hsplit (by decide) (by decide)
  have htexts : Text.lines straggling = ["--- a/x"] ++ "@@ -1 @@" ::
      ["@@ -5,2 +7,3 @@", " a", "\\ none", "+b", " c", " d"] := by
    decide
  obtain ⟨-, hreturned, hbad⟩ := numbered_parse straggling
  obtain ⟨-, hfront, hbody⟩ := hreturned _ hlines
  exact ⟨front, header, body, hlines, hfront front _ rfl (by decide), hbody _ _ hstretch,
    rfl, rfl, hbad _ _ _ htexts (by decide) (by decide)⟩

/-- Two lines from the greatest number of 64 bits on have no numbers, and the patch
is not read. -/
theorem numbers_run_out :
    ∃ ranges body, Stretch (unlimited {} (Text.lines atLimit)) ranges body ∧
      numbers .old body = [18446744073709551615, 18446744073709551616] ∧
      ¬ ∃ lines, parse? atLimit = some lines := by
  let header : Line := ⟨.hunkHeader, none, none, "@@ -18446744073709551615,2 +1,2 @@"⟩
  let body : List Line :=
    [⟨.context, some 18446744073709551615, some 1, " a"⟩,
      ⟨.context, some 18446744073709551616, some 2, " b"⟩]
  have hlines : unlimited {} (Text.lines atLimit) = [] ++ header :: (body ++ []) := by decide
  have hnone : parse? atLimit = none := by decide
  refine ⟨(⟨18446744073709551615, 2⟩, ⟨1, 2⟩), body,
    .opened hlines (by decide) (by decide), rfl, ?_⟩
  intro h
  obtain ⟨lines, hread⟩ := h
  rw [hnone] at hread
  cases hread

end DefectCatalog.Patch
