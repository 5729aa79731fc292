import DefectCatalog.Proofs.Patch.Reading
import DefectCatalog.Record

/-!
# Counting the lines of a patch

A record counts the lines that its patch adds and removes by their first
characters, without following the hunks.  Lines that start with three plus signs
or three dashes are left out as file headers, and so are added and removed lines
that happen to look like them.  On a well-formed diff the counts are therefore
those of the lines that reading the patch shows exactly if no line of a hunk
looks like a file header (`patchCounts_text`).
-/

namespace DefectCatalog.Patch

/-- The numbers of added and removed lines among the lines of a patch. -/
def tally (lines : List Line) : Nat × Nat :=
  (lines.countP fun l => l.kind = .addition, lines.countP fun l => l.kind = .deletion)

/-- The lines of all hunks. -/
def Diff.body (d : Diff) : List BodyLine :=
  d.files.flatMap fun f => f.hunks.flatMap Hunk.body

/-- Whether a line of a hunk looks like a header line of a file. -/
def BodyLine.looksLikeHeader (l : BodyLine) : Bool :=
  ['+', '+', '+'].isPrefixOf l.chars || ['-', '-', '-'].isPrefixOf l.chars

/-! ## Counting by first characters -/

/-- A line that starts with the character three times is not counted, one that
starts with it otherwise is. -/
def startsOnce (c : Char) (line : List Char) : Bool :=
  [c].isPrefixOf line && !([c, c, c].isPrefixOf line)

theorem isPrefixOf_eq_false {start line : List Char} (h : ∀ rest, line ≠ start ++ rest) :
    start.isPrefixOf line = false := by
  rw [Bool.eq_false_iff, ne_eq, List.isPrefixOf_iff_prefix]
  rintro ⟨rest, rfl⟩
  exact h rest rfl

/-- One line adds to the count of its first character. -/
theorem countLine_eq (counts : Nat × Nat) (line : List Char) :
    Record.countLine counts line =
      (counts.1 + (startsOnce '+' line).toNat, counts.2 + (startsOnce '-' line).toNat) := by
  unfold Record.countLine startsOnce
  split
  · simp [List.isPrefixOf]
  · simp [List.isPrefixOf]
  · next rest hrest =>
      have honce : ['+', '+'].isPrefixOf rest = false :=
        isPrefixOf_eq_false fun tail heq => hrest tail (by simp [heq])
      simp [List.isPrefixOf, honce]
  · next rest hrest =>
      have honce : ['-', '-'].isPrefixOf rest = false :=
        isPrefixOf_eq_false fun tail heq => hrest tail (by simp [heq])
      simp [List.isPrefixOf, honce]
  · next hplus hminus =>
      have hadded : ['+'].isPrefixOf line = false :=
        isPrefixOf_eq_false fun tail heq => hplus tail heq
      have hremoved : ['-'].isPrefixOf line = false :=
        isPrefixOf_eq_false fun tail heq => hminus tail heq
      simp [hadded, hremoved]

/-- The counts are those of the lines that start with the characters once. -/
theorem foldl_countLine (counts : Nat × Nat) (lines : List (List Char)) :
    lines.foldl Record.countLine counts =
      (counts.1 + lines.countP (startsOnce '+'), counts.2 + lines.countP (startsOnce '-')) := by
  induction lines generalizing counts with
  | nil => rfl
  | cons line lines ih =>
      rw [List.foldl_cons, ih, countLine_eq, List.countP_cons, List.countP_cons]
      cases startsOnce '+' line <;> cases startsOnce '-' line <;> simp <;> omega

/-! ## Counting along a diff -/

/-- What a line starts with does not depend on its end. -/
theorem isPrefixOf_chomp {start : List Char} (h : start.getLast? ≠ some '\r') (line : List Char) :
    start.isPrefixOf (Text.chomp line) = start.isPrefixOf line := by
  rw [Bool.eq_iff_iff, List.isPrefixOf_iff_prefix, List.isPrefixOf_iff_prefix]
  constructor
  · intro hprefix
    refine hprefix.trans ?_
    unfold Text.chomp
    split
    · exact List.dropLast_prefix line
    · exact List.prefix_rfl
  · rintro ⟨rest, rfl⟩
    rw [Text.chomp_append h]
    exact List.prefix_append start _

theorem startsOnce_chomp {c : Char} (hc : c ≠ '\r') (line : List Char) :
    startsOnce c (Text.chomp line) = startsOnce c line := by
  unfold startsOnce
  rw [isPrefixOf_chomp (by simpa using hc), isPrefixOf_chomp (by simpa using hc)]

/-- A count along a diff is a count along the lines of its hunks, if it passes
over all header lines. -/
theorem Diff.countP_written {p : List Char → Bool} (hfile : ∀ l : HeaderLine, p l.chars = false)
    (hhunk : ∀ h : Hunk, p h.headerChars = false) (d : Diff) :
    d.written.countP p = d.body.countP fun l => p l.chars := by
  have hfiles (f : FileDiff) :
      f.written.countP p = (f.hunks.flatMap Hunk.body).countP fun l => p l.chars := by
    have hheaders : (f.headers.map HeaderLine.chars).countP p = 0 := by
      simp [List.countP_eq_zero, hfile]
    have hbody (h : Hunk) : h.written.countP p = h.body.countP fun l => p l.chars := by
      simp [Hunk.written, hhunk, Function.comp_def]
    simp only [FileDiff.written, List.countP_append, hheaders, Nat.zero_add, List.countP_flatMap,
      Function.comp_def, hbody]
  simp only [Diff.written, Diff.body, List.countP_flatMap (l := d.files), Function.comp_def, hfiles]

/-- A kind of lines that is no header's is found among the lines of the hunks. -/
theorem Diff.countP_lines {k : Kind} (hfile : k ≠ .fileHeader) (hhunk : k ≠ .hunkHeader)
    (d : Diff) :
    (d.lines.countP fun l => l.kind = k) = d.body.countP fun l => l.mark.kind = k := by
  have hfiles (f : FileDiff) :
      (f.lines.countP fun l => l.kind = k) =
        (f.hunks.flatMap Hunk.body).countP fun l => l.mark.kind = k := by
    have hheaders : (f.headers.map HeaderLine.line).countP (fun l => l.kind = k) = 0 := by
      simp [List.countP_eq_zero, HeaderLine.line, Ne.symm hfile]
    have hlines (old new : Nat) (body : List BodyLine) :
        ((bodyLines old new body).countP fun l => l.kind = k) =
          body.countP fun l => l.mark.kind = k := by
      induction body generalizing old new with
      | nil => rfl
      | cons l body ih => simp [bodyLines, BodyLine.line, List.countP_cons, ih]
    have hbody (h : Hunk) :
        (h.lines.countP fun l => l.kind = k) = h.body.countP fun l => l.mark.kind = k := by
      simp [Hunk.lines, Hunk.headerLine, Ne.symm hhunk, hlines]
    simp only [FileDiff.lines, List.countP_append, hheaders, Nat.zero_add, List.countP_flatMap,
      Function.comp_def, hbody]
  simp only [Diff.lines, Diff.body, List.countP_flatMap (l := d.files), Function.comp_def, hfiles]

theorem HeaderLine.not_startsOnce (l : HeaderLine) :
    startsOnce '+' l.chars = false ∧ startsOnce '-' l.chars = false := by
  unfold HeaderLine.chars
  cases l.mark <;> exact ⟨rfl, rfl⟩

theorem Hunk.not_startsOnce (h : Hunk) :
    startsOnce '+' h.headerChars = false ∧ startsOnce '-' h.headerChars = false :=
  ⟨rfl, rfl⟩

/-- A line of a hunk counts as what it is, unless it looks like a file header. -/
theorem BodyLine.startsOnce_eq (l : BodyLine) :
    startsOnce '+' l.chars = (l.mark.kind = .addition && !l.looksLikeHeader) ∧
      startsOnce '-' l.chars = (l.mark.kind = .deletion && !l.looksLikeHeader) := by
  unfold startsOnce BodyLine.looksLikeHeader BodyLine.chars
  cases l.mark <;> simp [Mark.char, Mark.kind, List.isPrefixOf]

/-- A line of a hunk that looks like a file header is added or removed. -/
theorem BodyLine.kind_of_looksLikeHeader {l : BodyLine} (h : l.looksLikeHeader) :
    l.mark.kind = .addition ∨ l.mark.kind = .deletion := by
  unfold BodyLine.looksLikeHeader BodyLine.chars at h
  cases hmark : l.mark <;> simp [hmark, Mark.char, Mark.kind, List.isPrefixOf] at h ⊢

/-- The counts of a record whose patch is a written diff. -/
theorem patchCounts_setPatch_text (r : Record) (d : Diff) :
    (r.setPatch d.text).patchCounts =
      (d.body.countP fun l => l.mark.kind = .addition && !l.looksLikeHeader,
        d.body.countP fun l => l.mark.kind = .deletion && !l.looksLikeHeader) := by
  have hcount {c : Char} (hc : c ≠ '\r') :
      (d.written.map Text.chomp).countP (startsOnce c) = d.written.countP (startsOnce c) := by
    rw [List.countP_map]
    exact congrArg (d.written.countP ·) (funext fun line => startsOnce_chomp hc line)
  calc (r.setPatch d.text).patchCounts
      = (d.written.countP (startsOnce '+'), d.written.countP (startsOnce '-')) := by
        rw [Record.patchCounts, Record.setPatch, d.splitLines_text, foldl_countLine, Nat.zero_add,
          Nat.zero_add, hcount (by decide), hcount (by decide)]
    _ = _ := by
        rw [d.countP_written (fun l => l.not_startsOnce.1) (fun h => h.not_startsOnce.1),
          d.countP_written (fun l => l.not_startsOnce.2) (fun h => h.not_startsOnce.2)]
        simp only [fun l : BodyLine => l.startsOnce_eq.1, fun l : BodyLine => l.startsOnce_eq.2]

theorem tally_lines (d : Diff) :
    tally d.lines =
      (d.body.countP fun l => l.mark.kind = .addition,
        d.body.countP fun l => l.mark.kind = .deletion) := by
  rw [tally, d.countP_lines (by decide) (by decide),
    d.countP_lines (by decide) (by decide)]

/-- Leaving some items out of a count changes nothing exactly if none of them counts. -/
theorem countP_and_not_eq_iff {α : Type} {p q : α → Bool} {items : List α} :
    (items.countP fun a => p a && !q a) = items.countP p ↔ ∀ a ∈ items, p a → q a = false := by
  have hsplit : items.countP p =
      (items.countP fun a => p a && q a) + items.countP fun a => p a && !q a := by
    have hfilter := List.countP_eq_countP_filter_add items p q
    simpa [List.countP_filter] using hfilter
  have hzero : (items.countP fun a => p a && q a) = 0 ↔ ∀ a ∈ items, p a → q a = false := by
    simp [List.countP_eq_zero]
  rw [← hzero]
  omega

/-- **What the counts of a patch say.**  On a well-formed diff they are the
numbers of added and removed lines that do not look like file headers.  So they
agree with the patch as it is read exactly if no line of a hunk looks like a file
header. -/
theorem patchCounts_text (r : Record) (d : Diff) :
    (r.setPatch d.text).patchCounts =
        (d.body.countP fun l => l.mark.kind = .addition && !l.looksLikeHeader,
          d.body.countP fun l => l.mark.kind = .deletion && !l.looksLikeHeader) ∧
      ∃ lines, parse? (r.setPatch d.text).patch = some lines ∧
        ((r.setPatch d.text).patchCounts = tally lines ↔
          ∀ l ∈ d.body, l.looksLikeHeader = false) := by
  refine ⟨patchCounts_setPatch_text r d, d.lines, parse?_text d, ?_⟩
  rw [patchCounts_setPatch_text, tally_lines, Prod.mk.injEq, countP_and_not_eq_iff,
    countP_and_not_eq_iff]
  constructor
  · rintro ⟨hadded, hremoved⟩ l hl
    cases hlooks : l.looksLikeHeader with
    | false => rfl
    | true =>
        rcases l.kind_of_looksLikeHeader hlooks with hkind | hkind
        · exact hlooks ▸ hadded l hl (decide_eq_true hkind)
        · exact hlooks ▸ hremoved l hl (decide_eq_true hkind)
  · intro h
    exact ⟨fun l hl _ => h l hl, fun l hl _ => h l hl⟩

/-- A removed line whose text starts with two dashes, and an added one whose text
starts with two plus signs, are lines of their hunk but are not counted. -/
theorem disguised_lines_not_counted :
    ∃ d : Diff,
      d.text = "--- a/q.sql\n+++ b/q.sql\n@@ -1,1 +1,1 @@\n--- old comment\n+++ new comment\n" ∧
        ((Record.new "A" "1").setPatch d.text).patchCounts = (0, 0) ∧
        (parse? d.text).map tally = some (1, 1) := by
  refine ⟨⟨[⟨[⟨.old, ⟨"a/q.sql".toList, by decide⟩⟩, ⟨.new, ⟨"b/q.sql".toList, by decide⟩⟩],
    [{ oldStart := 1, newStart := 1, oldBrief := false, newBrief := false,
       heading := ⟨[], by decide⟩,
       body := [⟨.deletion, ⟨"-- old comment".toList, by decide⟩⟩,
         ⟨.addition, ⟨"++ new comment".toList, by decide⟩⟩],
       old_fits := by decide, new_fits := by decide }]⟩]⟩, ?_, ?_, ?_⟩ <;> decide

end DefectCatalog.Patch
