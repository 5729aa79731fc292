import DefectCatalog.Proofs.Decimal.Word
import DefectCatalog.Proofs.Patch.Diff

/-!
# Reading a written diff

Reading a diff that was written down gives its lines back, each with its kind
and its numbers.  What carries the proof is that the counters hold exactly the
lines of a hunk that are left: while there are any, no line is taken for a file
header, and after the last one the counters are idle.
-/

namespace DefectCatalog.Patch

/-! ## Hunk headers -/

/-- Digits are no blanks. -/
theorem isBlank_of_isDigit {c : Char} (h : c.isDigit) : Text.isBlank c = false := by
  have hrange : 48 ≤ c.toNat ∧ c.toNat ≤ 57 := by
    simpa [Char.isDigit, UInt32.le_iff_toNat_le] using h
  simp only [Text.isBlank, Bool.or_eq_false_iff, Bool.and_eq_false_iff, decide_eq_false_iff_not,
    beq_eq_false_iff_ne]
  omega

/-- A written range has digits and commas only. -/
theorem Range.isDigit_or_comma (r : Range) (brief : Bool) :
    ∀ c ∈ r.chars brief, c.isDigit ∨ c = ',' := by
  intro c hc
  have hdigit {n : Nat} (h : c ∈ Nat.toDigits 10 n) : c.isDigit :=
    Nat.isDigit_of_mem_toDigits (by decide) (by decide) h
  unfold Range.chars at hc
  rcases List.mem_append.mp hc with hc | hc
  · exact Or.inl (hdigit hc)
  · split at hc
    · cases hc
    · rcases List.mem_cons.mp hc with hc | hc
      · exact Or.inr hc
      · exact Or.inl (hdigit hc)

/-- A range has no blank in it. -/
theorem Range.not_isBlank (r : Range) (brief : Bool) :
    ∀ c ∈ r.chars brief, Text.isBlank c = false := by
  intro c hc
  rcases r.isDigit_or_comma brief c hc with hdigit | rfl
  · exact isBlank_of_isDigit hdigit
  · rfl

/-- **A range is read back** as it was written, with its count or without. -/
theorem Range.parse?_chars {r : Range} (hstart : r.start ≤ Decimal.wordLimit)
    (hcount : r.count ≤ Decimal.wordLimit) (brief : Bool) :
    Range.parse? (r.chars brief) = some r := by
  have hdigits : ∀ c ∈ Nat.toDigits 10 r.start, (c != ',') = true := by
    intro c hc
    have hdigit : c.isDigit := Nat.isDigit_of_mem_toDigits (by decide) (by decide) hc
    rw [bne_iff_ne]
    rintro rfl
    cases hdigit
  unfold Range.parse? Range.chars
  rw [List.takeWhile_append_of_pos hdigits, List.dropWhile_append_of_pos hdigits]
  split
  · next hbrief =>
      simp only [Bool.and_eq_true, beq_iff_eq] at hbrief
      obtain ⟨start, count⟩ := r
      simp_all [Decimal.word?_toDigits]
  · simp [Decimal.word?_toDigits hstart, Decimal.word?_toDigits hcount]

/-- The heading of a hunk does not touch its ranges. -/
theorem Hunk.chomp_headerChars (h : Hunk) :
    Text.chomp h.headerChars = h.rangesChars ++ Text.chomp h.heading.chars := by
  apply Text.chomp_append
  rw [Hunk.rangesChars, List.getLast?_append]
  simp

/-- The ranges of a written hunk header read back. -/
theorem Hunk.ranges?_headerChars (h : Hunk) :
    ranges? (Text.chomp h.headerChars) = some (h.oldRange, h.newRange) := by
  have hold := h.old_fits
  have hnew := h.new_fits
  have holdRange : Range.parse? (h.oldRange.chars h.oldBrief) = some h.oldRange := by
    apply Range.parse?_chars <;> simp only [Hunk.oldRange, Decimal.wordLimit] <;> omega
  have hnewRange : Range.parse? (h.newRange.chars h.newBrief) = some h.newRange := by
    apply Range.parse?_chars <;> simp only [Hunk.newRange, Decimal.wordLimit] <;> omega
  have hwords (rest : List Char) :
      Text.words (h.rangesChars ++ rest) =
        ['@', '@'] :: ('-' :: h.oldRange.chars h.oldBrief) ::
          ('+' :: h.newRange.chars h.newBrief) :: Text.words ('@' :: '@' :: rest) := by
    have hshape : h.rangesChars ++ rest =
        ['@', '@'] ++ ' ' :: (('-' :: h.oldRange.chars h.oldBrief) ++
          ' ' :: (('+' :: h.newRange.chars h.newBrief) ++ ' ' :: '@' :: '@' :: rest)) := by
      simp [Hunk.rangesChars]
    have hsigns : ∀ c ∈ ['@', '@'], Text.isBlank c = false := by
      intro c hc
      obtain rfl : c = '@' := by simpa using hc
      rfl
    rw [hshape, Text.words_append_blank (by simp) hsigns rfl,
      Text.words_append_blank (by simp) _ rfl, Text.words_append_blank (by simp) _ rfl]
    · exact List.forall_mem_cons.mpr ⟨rfl, h.newRange.not_isBlank h.newBrief⟩
    · exact List.forall_mem_cons.mpr ⟨rfl, h.oldRange.not_isBlank h.oldBrief⟩
  rw [h.chomp_headerChars, ranges?, hwords]
  simp [holdRange, hnewRange]

/-! ## Line feeds -/

/-- A line of a hunk is one line. -/
theorem BodyLine.unbroken (l : BodyLine) : '\n' ∉ l.chars := by
  rw [BodyLine.chars, List.mem_cons, not_or]
  exact ⟨by cases l.mark <;> decide, l.rest.unbroken⟩

theorem HeaderLine.unbroken (l : HeaderLine) : '\n' ∉ l.chars := by
  rw [HeaderLine.chars, List.mem_append, not_or]
  exact ⟨by cases l.mark <;> decide, l.rest.unbroken⟩

theorem Range.unbroken (r : Range) (brief : Bool) : '\n' ∉ r.chars brief := by
  intro h
  cases r.not_isBlank brief '\n' h

/-- A hunk header is one line. -/
theorem Hunk.unbroken_headerChars (h : Hunk) : '\n' ∉ h.headerChars := by
  have hold := h.oldRange.unbroken h.oldBrief
  have hnew := h.newRange.unbroken h.newBrief
  simp [Hunk.headerChars, Hunk.rangesChars, hold, hnew, h.heading.unbroken]

/-! ## One line -/

/-- The counters when no hunk is open. -/
structure Counters.Idle (c : Counters) : Prop where
  oldLeft : c.oldLeft = 0
  newLeft : c.newLeft = 0
  fit : c.fit

/-- Idle counters are in no hunk. -/
theorem Counters.Idle.inHunk {c : Counters} (h : c.Idle) : c.inHunk = false := by
  simp [Counters.inHunk, h.oldLeft, h.newLeft]

/-- Counters fit if there are numbers for the lines that are left. -/
theorem Counters.fit_of_lt {c : Counters} {oldCount newCount : Nat}
    (hold : c.old + oldCount < 2 ^ 64) (hnew : c.new + newCount < 2 ^ 64) : c.fit := by
  rw [fit, Bool.and_eq_true, decide_eq_true_iff, decide_eq_true_iff, Decimal.wordLimit]
  omega

/-- Passes a line of a hunk. -/
def Counters.pass (c : Counters) : Mark → Counters
  | .context => c.passOld.passNew
  | .deletion => c.passOld
  | .addition => c.passNew
  | .remark => c

/-- A line of a file moves the number of that file on, and leaves one line less. -/
theorem Counters.pass_eq (c : Counters) (m : Mark) :
    c.pass m =
      { old := if m.onOld then c.old + 1 else c.old
        new := if m.onNew then c.new + 1 else c.new
        oldLeft := if m.onOld then c.oldLeft - 1 else c.oldLeft
        newLeft := if m.onNew then c.newLeft - 1 else c.newLeft } := by
  cases m <;> rfl

variable (c : Counters)

/-- A hunk header starts the hunk, whatever the counters are. -/
theorem readLine_hunkHeader (h : Hunk) :
    readLine c (shown h.headerChars) =
      (h.headerLine, ⟨h.oldStart, h.newStart, oldCount h.body, newCount h.body⟩) := by
  have hranges := h.ranges?_headerChars
  have hstart : ∃ rest, Text.chomp h.headerChars = '@' :: '@' :: rest :=
    ⟨_, h.chomp_headerChars⟩
  obtain ⟨rest, hrest⟩ := hstart
  unfold readLine Hunk.headerLine shown
  rw [String.toList_ofList, hranges, hrest]
  rfl

/-- Outside a hunk, a header line of a file is one. -/
theorem readLine_fileHeader (hidle : c.Idle) (l : HeaderLine) :
    readLine c (shown l.chars) = (l.line, c) := by
  have hchomp : Text.chomp l.chars = l.mark.chars ++ Text.chomp l.rest.chars := by
    apply Text.chomp_append
    cases l.mark <;> decide
  have hnames : namesFile (Text.chomp l.chars) := by
    rw [hchomp]
    cases l.mark <;> rfl
  unfold readLine HeaderLine.line shown
  simp only [String.toList_ofList, hidle.inHunk, hnames]
  rw [hchomp]
  cases l.mark <;> rfl

/-- Inside a hunk the mark of a line decides; a remark is one outside too. -/
theorem readLine_body (l : BodyLine) (hopen : l.mark ≠ .remark → c.inHunk) :
    readLine c (shown l.chars) = (l.line c.old c.new, c.pass l.mark) := by
  have hmark : [l.mark.char].getLast? ≠ some '\r' := by cases l.mark <;> decide
  have hchomp : Text.chomp l.chars = l.mark.char :: Text.chomp l.rest.chars :=
    Text.chomp_append hmark l.rest.chars
  unfold readLine BodyLine.line shown
  simp only [String.toList_ofList]
  rw [hchomp]
  cases hmark : l.mark with
  | remark =>
      have hnames (s : List Char) : namesFile ('\\' :: s) = false := rfl
      simp [Mark.char, Mark.kind, Mark.onOld, Mark.onNew, Counters.pass, hnames]
  | context | deletion | addition =>
      have hin : c.inHunk = true := hopen (by simp [hmark])
      simp [Mark.char, Mark.kind, Mark.onOld, Mark.onNew, Counters.pass, Counters.numbered, hin]

/-! ## Runs of lines -/

/-- From the counters `c` on, the lines `texts` are read as `lines` and leave
the counters idle, whatever follows. -/
def Reads (c : Counters) (texts : List (List Char)) (lines : List Line) : Prop :=
  ∃ c' : Counters, c'.Idle ∧
    ∀ rest, readLines? c (texts.map shown ++ rest) = (readLines? c' rest).map (lines ++ ·)

variable {c}

/-- Where there are no lines, there is nothing to read. -/
theorem Reads.nil (hidle : c.Idle) : Reads c [] [] :=
  ⟨c, hidle, fun rest => by simp⟩

/-- A line that is read hands its counters to the lines after it. -/
theorem Reads.cons {text : List Char} {texts : List (List Char)} {line : Line} {lines : List Line}
    {next : Counters} (hline : readLine c (shown text) = (line, next)) (hfit : next.fit)
    (hrest : Reads next texts lines) : Reads c (text :: texts) (line :: lines) := by
  obtain ⟨c', hidle, hreads⟩ := hrest
  refine ⟨c', hidle, fun rest => ?_⟩
  have hread := hreads rest
  rw [List.map_cons, List.cons_append, readLines?, hline]
  dsimp only
  rw [if_pos hfit, hread, Option.map_map]
  rfl

/-- Lines that are read one after the other are read together. -/
theorem Reads.append {texts texts' : List (List Char)} {lines lines' : List Line}
    (hfirst : Reads c texts lines) (hsecond : ∀ c : Counters, c.Idle → Reads c texts' lines') :
    Reads c (texts ++ texts') (lines ++ lines') := by
  obtain ⟨c₁, hidle₁, hreads₁⟩ := hfirst
  obtain ⟨c₂, hidle₂, hreads₂⟩ := hsecond c₁ hidle₁
  refine ⟨c₂, hidle₂, fun rest => ?_⟩
  rw [List.map_append, List.append_assoc, hreads₁, hreads₂, Option.map_map]
  simp only [Function.comp_def, List.append_assoc]

/-- What is read piece by piece is read as a whole. -/
theorem Reads.flatMap {α : Type} {texts : α → List (List Char)} {lines : α → List Line}
    {pieces : List α} (hpiece : ∀ a ∈ pieces, ∀ c : Counters, c.Idle → Reads c (texts a) (lines a))
    (hidle : c.Idle) : Reads c (pieces.flatMap texts) (pieces.flatMap lines) := by
  induction pieces generalizing c with
  | nil => exact .nil hidle
  | cons a pieces ih =>
      rw [List.forall_mem_cons] at hpiece
      exact (hpiece.1 c hidle).append fun _ h => ih hpiece.2 h

/-- Counters that hold the lines that are left are in a hunk while a line of a
file is left. -/
theorem Counters.inHunk_of_cons {l : BodyLine} {body : List BodyLine}
    (hold : c.oldLeft = oldCount (l :: body)) (hnew : c.newLeft = newCount (l :: body))
    (hmark : l.mark ≠ .remark) : c.inHunk := by
  rw [oldCount_cons] at hold
  rw [newCount_cons] at hnew
  rcases l.mark.onOld_or_onNew hmark with h | h <;> simp [inHunk, hold, hnew, h]

/-- **The lines of a hunk.**  By induction on the body; the counters hold exactly
the lines that are left, and there are numbers for all of them. -/
theorem reads_body {body : List BodyLine} (hold : c.oldLeft = oldCount body)
    (hnew : c.newLeft = newCount body) (hfitsOld : c.old + oldCount body < 2 ^ 64)
    (hfitsNew : c.new + newCount body < 2 ^ 64) :
    Reads c (body.map BodyLine.chars) (bodyLines c.old c.new body) := by
  induction body generalizing c with
  | nil => exact .nil ⟨hold, hnew, Counters.fit_of_lt hfitsOld hfitsNew⟩
  | cons l body ih =>
      have hline := readLine_body c l (Counters.inHunk_of_cons hold hnew)
      rw [oldCount_cons] at hold hfitsOld
      rw [newCount_cons] at hnew hfitsNew
      have hpass := c.pass_eq l.mark
      have hnextOld : (c.pass l.mark).old + oldCount body < 2 ^ 64 := by
        rw [hpass]
        dsimp only
        split_ifs at hfitsOld ⊢ <;> omega
      have hnextNew : (c.pass l.mark).new + newCount body < 2 ^ 64 := by
        rw [hpass]
        dsimp only
        split_ifs at hfitsNew ⊢ <;> omega
      have hrest : Reads (c.pass l.mark) (body.map BodyLine.chars)
          (bodyLines (c.pass l.mark).old (c.pass l.mark).new body) := by
        apply ih _ _ hnextOld hnextNew
        · cases h : l.mark.onOld <;> simp [hpass, hold, h]
        · cases h : l.mark.onNew <;> simp [hpass, hnew, h]
      have hcons := hrest.cons hline (Counters.fit_of_lt hnextOld hnextNew)
      rw [hpass] at hcons
      exact hcons

/-- A hunk is read as its lines, from any counters. -/
theorem reads_hunk (h : Hunk) : Reads c h.written h.lines :=
  (reads_body rfl rfl h.old_fits h.new_fits).cons (readLine_hunkHeader c h)
    (Counters.fit_of_lt h.old_fits h.new_fits)

/-- Outside a hunk, the header lines of a file are read as such. -/
theorem reads_headers (hidle : c.Idle) (headers : List HeaderLine) :
    Reads c (headers.map HeaderLine.chars) (headers.map HeaderLine.line) := by
  induction headers with
  | nil => exact .nil hidle
  | cons l headers ih => exact ih.cons (readLine_fileHeader c hidle l) hidle.fit

/-- Outside a hunk, the changes to a file are read as their lines. -/
theorem reads_file (hidle : c.Idle) (f : FileDiff) : Reads c f.written f.lines :=
  (reads_headers hidle f.headers).append fun _ h => Reads.flatMap (fun h _ _ _ => reads_hunk h) h

/-- No line of a diff is broken. -/
theorem Diff.unbroken (d : Diff) : ∀ line ∈ d.written, '\n' ∉ line := by
  intro line hline
  obtain ⟨f, -, hline⟩ := List.mem_flatMap.mp hline
  rcases List.mem_append.mp hline with hline | hline
  · obtain ⟨l, -, rfl⟩ := List.mem_map.mp hline
    exact l.unbroken
  · obtain ⟨h, -, hline⟩ := List.mem_flatMap.mp hline
    rcases List.mem_cons.mp hline with rfl | hline
    · exact h.unbroken_headerChars
    · obtain ⟨l, -, rfl⟩ := List.mem_map.mp hline
      exact l.unbroken

/-- A written diff falls into its lines again. -/
theorem Diff.splitLines_text (d : Diff) :
    Text.splitLines d.text.toList = d.written.map Text.chomp := by
  rw [Diff.text, String.toList_ofList, Text.splitLines_flatMap d.unbroken]

/-- **A printed diff is read back** as its lines. -/
theorem parse?_text (d : Diff) : parse? d.text = some d.lines := by
  obtain ⟨c', -, hreads⟩ : Reads {} d.written d.lines :=
    Reads.flatMap (fun f _ _ h => reads_file h f) ⟨rfl, rfl, rfl⟩
  calc parse? d.text
      = readLines? {} (d.written.map shown ++ []) := by
        rw [parse?, Text.lines, d.splitLines_text, List.map_map, List.append_nil]
        rfl
    _ = (readLines? c' []).map (d.lines ++ ·) := hreads []
    _ = some d.lines := by rw [readLines?, Option.map_some, List.append_nil]

/-- **Reading undoes writing.**  The lines of a written diff come back with their
kinds and numbers; in every hunk the lines of the old file have consecutive
numbers from the start of the hunk on, and so have those of the new file. -/
theorem Diff.reads_back (d : Diff) :
    parse? d.text = some d.lines ∧
      ∀ f ∈ d.files, ∀ h ∈ f.hunks,
        h.lines.filterMap Line.old = List.range' h.oldStart (oldCount h.body) ∧
          h.lines.filterMap Line.new = List.range' h.newStart (newCount h.body) := by
  refine ⟨parse?_text d, ?_⟩
  intro f _ h _
  exact ⟨filterMap_old_bodyLines _ _ _, filterMap_new_bodyLines _ _ _⟩

end DefectCatalog.Patch
