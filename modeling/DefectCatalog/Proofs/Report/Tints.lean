import DefectCatalog.Proofs.Report.Rows

/-!
# Reports without their tints

A tinted fragment stands between two escape sequences, and deleting them leaves its text.
So a report without them is the plain one, but for the blanks at the end of a line: they
are dropped at the end of what is printed, and a tint ends with an `m`, so those in front of
it are kept (`untinted_line`).  A report keeps its lines exactly if no such blank is a line
feed (`sameLines_render_iff`).
-/

namespace DefectCatalog.Report

open Text (Lacks isBlank trimRight)

variable {f : Fragment} {l : Line} {s t : List Char}

/-- The character that starts an escape sequence. -/
def escape : Char := '\x1b'

/-- A text without its escape sequences; `inside` tells whether it starts within one. -/
def untintFrom (inside : Bool) : List Char → List Char
  | [] => []
  | c :: rest =>
    if inside then untintFrom (c ≠ 'm') rest
    else if c = escape ∧ rest.head? = some '[' then untintFrom true rest
    else c :: untintFrom false rest

/-- A text without its escape sequences, each of which ends with an `m`. -/
def untinted (s : String) : String :=
  String.ofList (untintFrom false s.toList)

/-- The lines of a text without the blanks at their ends. -/
def bareLines (s : List Char) : List (List Char) :=
  (Text.splitAt '\n' s).map trimRight

/-- Whether two texts have the same lines but for the blanks at their ends. -/
def SameLines (s t : String) : Prop :=
  bareLines s.toList = bareLines t.toList

instance (s t : String) : Decidable (SameLines s t) :=
  inferInstanceAs (Decidable (bareLines s.toList = bareLines t.toList))

/-- The text of fragments without their tints. -/
def fragmentsText (fs : List Fragment) : List Char :=
  fs.flatMap fun f => f.text.toList

/-- The fragments up to the last one that is tinted. -/
def tintedPart (fs : List Fragment) : List Fragment :=
  fs.rdropWhile (·.tint = .plain)

/-- The blanks that are dropped at the end of the line if it is printed plainly, and kept in
front of the end of its last tint if it is not. -/
def Line.keptBlanks (l : Line) : List Char :=
  if l.trimmed then
    (fragmentsText (tintedPart l.fragments)).drop (trimRight (fragmentsText l.fragments)).length
  else []

/-! ## Deleting escape sequences -/

/-- Text without an escape stays as it is. -/
theorem untintFrom_false_append (h : escape ∉ s) (t : List Char) :
    untintFrom false (s ++ t) = s ++ untintFrom false t := by
  induction s with
  | nil => rfl
  | cons c s ih =>
      rw [List.mem_cons, not_or] at h
      rw [List.cons_append, untintFrom, if_neg Bool.false_ne_true,
        if_neg fun hc => h.1 hc.1.symm, ih h.2, List.cons_append]

/-- Within a sequence everything is deleted up to the `m`. -/
theorem untintFrom_true_append (h : 'm' ∉ s) (t : List Char) :
    untintFrom true (s ++ 'm' :: t) = untintFrom false t := by
  induction s with
  | nil => rfl
  | cons c s ih =>
      rw [List.mem_cons, not_or] at h
      have hc : decide (c ≠ 'm') = true := decide_eq_true (Ne.symm h.1)
      rw [List.cons_append, untintFrom, if_pos rfl, hc, ih h.2]

/-- A whole sequence is deleted. -/
theorem untintFrom_sequence (h : 'm' ∉ s) (t : List Char) :
    untintFrom false (escape :: '[' :: (s ++ 'm' :: t)) = untintFrom false t := by
  have hopen : 'm' ∉ '[' :: s := by simp [h]
  rw [untintFrom, if_neg Bool.false_ne_true, if_pos ⟨rfl, rfl⟩]
  exact untintFrom_true_append hopen t

/-- **A fragment without its tint** is its text. -/
theorem untintFrom_fragment (h : Lacks escape f.text) (t : List Char) :
    untintFrom false ((f.render true).toList ++ t) = f.text.toList ++ untintFrom false t := by
  cases hcode : f.tint.code? with
  | none =>
      rw [Fragment.render, hcode]
      exact untintFrom_false_append h t
  | some code =>
      have hm : 'm' ∉ code.toList := by
        cases htint : f.tint <;> rw [htint] at hcode <;> cases hcode <;> decide
      have hprinted : (f.render true).toList ++ t = escape :: '[' :: (code.toList ++ 'm' ::
          (f.text.toList ++ escape :: '[' :: (['0'] ++ 'm' :: t))) := by
        simp [Fragment.render, hcode, escape]
      rw [hprinted, untintFrom_sequence hm, untintFrom_false_append h,
        untintFrom_sequence (by decide)]

/-- Of coloured fragments their text stays. -/
theorem untintFrom_fragments {fs : List Fragment} (h : ∀ f ∈ fs, Lacks escape f.text)
    (t : List Char) :
    untintFrom false ((fs.flatMap fun f => (f.render true).toList) ++ t) =
      fragmentsText fs ++ untintFrom false t := by
  induction fs with
  | nil => rfl
  | cons f fs ih =>
      rw [List.forall_mem_cons] at h
      rw [List.flatMap_cons, List.append_assoc, untintFrom_fragment h.1, ih h.2,
        ← List.append_assoc]
      rfl

/-! ## Lines -/

/-- A line is its fragments one after the other. -/
theorem toList_join_render (colored : Bool) (fs : List Fragment) :
    (String.join (fs.map (·.render colored))).toList =
      fs.flatMap fun f => (f.render colored).toList := by
  rw [String.toList_join, List.flatMap_map]

/-- Plain fragments are their text, with and without colours. -/
theorem flatMap_render_of_plain {fs : List Fragment} (h : ∀ f ∈ fs, f.tint = .plain)
    (colored : Bool) : (fs.flatMap fun f => (f.render colored).toList) = fragmentsText fs :=
  List.flatMap_congr fun f hf => by rw [Fragment.render, h f hf, Tint.code?]

/-- Without colours fragments are their text. -/
theorem flatMap_render_false (fs : List Fragment) :
    (fs.flatMap fun f => (f.render false).toList) = fragmentsText fs :=
  List.flatMap_congr fun f _ => by rw [Table.render_false]

/-- A tinted fragment ends with the end of an escape. -/
theorem exists_render_of_tinted (h : f.tint ≠ .plain) :
    ∃ before, (f.render true).toList = before ++ ['m'] := by
  obtain ⟨code, hcode⟩ : ∃ code, f.tint.code? = some code := by
    cases htint : f.tint with
    | plain => exact absurd htint h
    | _ => exact ⟨_, rfl⟩
  refine ⟨("\x1b[" ++ code ++ "m" ++ f.text ++ "\x1b[0").toList, ?_⟩
  simp [Fragment.render, hcode]

/-- The tinted part of a line ends with a tint. -/
theorem exists_render_tintedPart (fs : List Fragment) : tintedPart fs = [] ∨
    ∃ before, ((tintedPart fs).flatMap fun f => (f.render true).toList) = before ++ ['m'] := by
  refine or_iff_not_imp_left.mpr fun hne => ?_
  have hlast : ((tintedPart fs).getLast hne).tint ≠ .plain := fun heq =>
    List.rdropWhile_last_not _ fs hne (decide_eq_true heq)
  obtain ⟨before, hbefore⟩ := exists_render_of_tinted hlast
  rw [← List.dropLast_append_getLast hne, List.flatMap_append, List.flatMap_singleton, hbefore,
    ← List.append_assoc]
  exact ⟨_, rfl⟩

/-- What is trimmed off two texts, but for the blanks at the end of the first. -/
theorem trimRight_append_drop (s t : List Char) :
    trimRight (s ++ t) ++ s.drop (trimRight (s ++ t)).length = s ++ trimRight t := by
  rw [Text.trimRight_append]
  split
  · next hblank =>
      rw [hblank, List.append_nil]
      exact List.prefix_iff_eq_append.mp (Table.prefix_trimRight s)
  · rw [List.drop_of_length_le (by simp), List.append_nil]

/-- The fragments after the last tint. -/
def plainPart (fs : List Fragment) : List Fragment :=
  fs.rtakeWhile (·.tint = .plain)

/-- A line is what there is up to its last tint, and what is plain behind. -/
theorem tintedPart_append_plainPart (fs : List Fragment) : tintedPart fs ++ plainPart fs = fs :=
  List.rdropWhile_append_rtakeWhile

theorem fragmentsText_append (fs gs : List Fragment) :
    fragmentsText (fs ++ gs) = fragmentsText fs ++ fragmentsText gs :=
  List.flatMap_append

/-- Nothing is trimmed up to the last tint of a coloured line. -/
theorem trimRight_render (fs : List Fragment) :
    trimRight (fs.flatMap fun f => (f.render true).toList) =
      ((tintedPart fs).flatMap fun f => (f.render true).toList) ++
        trimRight (fragmentsText (plainPart fs)) := by
  have hplain : ∀ f ∈ plainPart fs, f.tint = .plain := fun f hf =>
    of_decide_eq_true (List.mem_rtakeWhile_imp (p := fun f : Fragment => f.tint = .plain) hf)
  conv_lhs => rw [← tintedPart_append_plainPart fs, List.flatMap_append,
    flatMap_render_of_plain hplain]
  rcases exists_render_tintedPart fs with hnil | ⟨before, hbefore⟩
  · rw [hnil, List.flatMap_nil, List.nil_append, List.nil_append]
  · rw [hbefore, List.append_assoc, List.singleton_append,
      Text.trimRight_append_cons (by decide), List.append_assoc, List.singleton_append]

/-- **A line without its tints** is the plain line and the blanks that it kept. -/
theorem untintFrom_line (h : ∀ f ∈ l.fragments, Lacks escape f.text) (t : List Char) :
    untintFrom false ((l.render true).toList ++ t) =
      (l.render false).toList ++ (l.keptBlanks ++ untintFrom false t) := by
  obtain ⟨fs, trimmed⟩ := l
  dsimp only at h
  cases trimmed with
  | false =>
      simp only [Line.render, Line.keptBlanks, Bool.false_eq_true, if_false,
        toList_join_render, flatMap_render_false, List.nil_append]
      exact untintFrom_fragments h t
  | true =>
      have htinted : ∀ f ∈ tintedPart fs, Lacks escape f.text := fun f hf =>
        h f ((List.rdropWhile_prefix _ fs).subset hf)
      have hplain : escape ∉ trimRight (fragmentsText (plainPart fs)) := by
        intro hmem
        obtain ⟨f, hf, hescape⟩ := List.mem_flatMap.mp (Text.mem_of_mem_trimRight hmem)
        exact h f (List.rtakeWhile_suffix _ fs |>.subset hf) hescape
      simp only [Line.render, Line.keptBlanks, if_true, Text.trimmedRight, toList_join_render,
        flatMap_render_false, String.toList_ofList]
      rw [trimRight_render, List.append_assoc, untintFrom_fragments htinted,
        untintFrom_false_append hplain, ← List.append_assoc, ← List.append_assoc,
        ← trimRight_append_drop, ← fragmentsText_append, tintedPart_append_plainPart]

/-- The blanks that are kept are blanks. -/
theorem isBlank_of_mem_keptBlanks : ∀ c ∈ l.keptBlanks, isBlank c := by
  intro c hc
  unfold Line.keptBlanks at hc
  split at hc
  · -- the kept blanks are among those that are trimmed off the whole line
    have hdrop : ∀ n, (fragmentsText l.fragments).drop n =
        (fragmentsText (tintedPart l.fragments)).drop n ++
          (fragmentsText (plainPart l.fragments)).drop
            (n - (fragmentsText (tintedPart l.fragments)).length) := fun n => by
      rw [← List.drop_append, ← fragmentsText_append, tintedPart_append_plainPart]
    refine Text.isBlank_of_mem_drop_trimRight (s := fragmentsText l.fragments) ?_
    rw [hdrop]
    exact List.mem_append_left _ hc
  · cases hc

/-! ## Reports -/

/-- A report is its lines with line feeds between them. -/
theorem toList_render (colored : Bool) (ls : List Line) : (render colored ls).toList =
    ['\n'].intercalate (ls.map fun l => (l.render colored).toList) := by
  have hfeed : ("\n").toList = ['\n'] := rfl
  rw [render, Text.joined, String.toList_intercalate, hfeed, List.map_map]
  rfl

/-- The kept blanks of each line are at its end. -/
theorem untintFrom_render {ls : List Line}
    (h : ∀ l ∈ ls, ∀ f ∈ l.fragments, Lacks escape f.text) :
    untintFrom false (render true ls).toList =
      ['\n'].intercalate (ls.map fun l => (l.render false).toList ++ l.keptBlanks) := by
  rw [toList_render]
  induction ls with
  | nil => rfl
  | cons l ls ih =>
      rw [List.forall_mem_cons] at h
      cases ls with
      | nil =>
          have hline := untintFrom_line h.1 []
          rw [List.append_nil, untintFrom, List.append_nil] at hline
          simpa using hline
      | cons l' ls =>
          have hseparator : escape ∉ ['\n'] := by decide
          have hrest := ih h.2
          simp only [List.map_cons, List.intercalate_cons_cons, List.append_assoc] at hrest ⊢
          rw [untintFrom_line h.1, untintFrom_false_append hseparator, hrest]

/-- A line feed begins a line. -/
theorem bareLines_append_feed (s t : List Char) :
    bareLines (s ++ '\n' :: t) = bareLines s ++ bareLines t := by
  rw [bareLines, Text.splitAt_append, List.map_append]
  rfl

/-- There is a line more than line feeds. -/
theorem length_bareLines (s : List Char) : (bareLines s).length = s.count '\n' + 1 := by
  rw [bareLines, List.length_map, Text.length_splitAt]

/-- Blanks other than line feeds at the end of a text are at the end of its last line. -/
theorem bareLines_append_blanks (hblank : ∀ c ∈ t, isBlank c) (hfeed : '\n' ∉ t) (s : List Char) :
    bareLines (s ++ t) = bareLines s := by
  obtain ⟨before, last, hs, hst⟩ := Text.splitAt_append_of_not_mem hfeed s
  have hnil : trimRight t = [] := Text.trimRight_eq_nil_iff.mpr hblank
  rw [bareLines, bareLines, hs, hst, List.map_append, List.map_append, List.map_singleton,
    List.map_singleton, Text.trimRight_append, if_pos hnil]

/-- The lines of joined texts are those of each. -/
theorem bareLines_intercalate {ss : List (List Char)} (hne : ss ≠ []) :
    bareLines (['\n'].intercalate ss) = ss.flatMap bareLines := by
  induction ss with
  | nil => exact absurd rfl hne
  | cons s ss ih =>
      cases ss with
      | nil => simp
      | cons t ss =>
          rw [List.intercalate_cons_cons, List.append_assoc, List.singleton_append,
            bareLines_append_feed, ih (List.cons_ne_nil t ss), List.flatMap_cons (x := s)]

/-- Each line feed at the end of a line makes one line more. -/
theorem length_flatMap_bareLines (text blanks : Line → List Char) (ls : List Line) :
    (ls.flatMap fun l => bareLines (text l ++ blanks l)).length =
      (ls.flatMap fun l => bareLines (text l)).length + (ls.flatMap blanks).count '\n' := by
  induction ls with
  | nil => rfl
  | cons l ls ih =>
      simp only [List.flatMap_cons, List.length_append, List.count_append, length_bareLines, ih]
      omega

/-- **When a coloured report has the lines of the plain one.** -/
theorem sameLines_render_iff {ls : List Line}
    (h : ∀ l ∈ ls, ∀ f ∈ l.fragments, Lacks escape f.text) :
    SameLines (untinted (render true ls)) (render false ls) ↔
      ∀ l ∈ ls, '\n' ∉ l.keptBlanks := by
  unfold SameLines untinted
  rw [String.toList_ofList, untintFrom_render h, toList_render]
  by_cases hnil : ls = []
  · simp [hnil]
  rw [bareLines_intercalate (by simpa using hnil), bareLines_intercalate (by simpa using hnil),
    List.flatMap_map, List.flatMap_map]
  constructor
  · intro hsame l hl hfeed
    have hlength := length_flatMap_bareLines (fun l => (l.render false).toList) Line.keptBlanks ls
    rw [hsame, Nat.left_eq_add, List.count_eq_zero] at hlength
    exact hlength (List.mem_flatMap.mpr ⟨l, hl, hfeed⟩)
  · intro hfeed
    exact List.flatMap_congr fun l hl =>
      bareLines_append_blanks isBlank_of_mem_keptBlanks (hfeed l hl) _

/-- Nothing is trimmed off a line that is not to be trimmed. -/
theorem untinted_render_of_untrimmed {ls : List Line}
    (h : ∀ l ∈ ls, ∀ f ∈ l.fragments, Lacks escape f.text)
    (htrimmed : ∀ l ∈ ls, l.trimmed = false) : untinted (render true ls) = render false ls := by
  have hkept : ∀ l ∈ ls, (l.render false).toList ++ l.keptBlanks = (l.render false).toList :=
    fun l hl => by simp [Line.keptBlanks, htrimmed l hl]
  rw [untinted, untintFrom_render h, List.map_congr_left hkept, ← toList_render,
    String.ofList_toList]

end DefectCatalog.Report
