import DefectCatalog.Proofs.Route.Reading

/-!
# Showing a route and reading it again

What is read is made of whole segments, so a route that was read keeps them in
its text.  Only the blanks at the end of the text do not count: if a blank stands
before the slashes at the end of what was read, it ends the commit, and reading
the route's text drops it (`reshown_of_parse`).  Which routes are read back from
their text, and from which spelling a route comes that is, are equivalences
(`parse_text_iff`, `Reshown.same_iff`).
-/

namespace DefectCatalog.Route

/-- **The routes that are read back from their text.**  The list is one of them, and
a bug exactly if its parts are not empty and without a slash, and no blank ends the
commit. -/
theorem parse_text_iff :
    parse (text .list) = .ok .list ∧ ∀ project id : String,
      parse (text (.bug project id)) = .ok (.bug project id) ↔
        project ≠ "" ∧ id ≠ "" ∧ '/' ∉ project.toList ∧ '/' ∉ id.toList ∧
          ∀ c ∈ id.toList.getLast?, Text.isBlank c = false := by
  refine ⟨rfl, fun project id => (parse_text_ofRecord_iff (.new project id)).trans ?_⟩
  constructor
  · rintro ⟨⟨hproject, hslash⟩, ⟨hid, hslash'⟩, hblank⟩
    exact ⟨hproject, hid, hslash, hslash', hblank⟩
  · rintro ⟨hproject, hid, hslash, hslash', hblank⟩
    exact ⟨⟨hproject, hslash⟩, ⟨hid, hslash'⟩, hblank⟩

/-! ## What is read -/

/-- The text that is cut at slashes: trimmed, without hash marks. -/
def body (s : String) : List Char :=
  ((Text.trim s.toList).dropWhile (· == '#')).dropWhile (· == '!')

theorem segments_eq (s : String) : segments s = pieces (body s) :=
  rfl

/-- Together, the pieces of a text are its characters except the slashes. -/
theorem flatten_pieces (s : List Char) : (pieces s).flatten = s.filter (· ≠ '/') := by
  rw [pieces, List.flatten_filter_not_isEmpty, Text.flatten_splitAt]

/-- The text before the body is made of marks. -/
theorem exists_marks (s : String) :
    ∃ marks, Text.trim s.toList = marks ++ body s ∧ ∀ c ∈ marks, c = '#' ∨ c = '!' := by
  refine ⟨(Text.trim s.toList).takeWhile (· == '#') ++
    ((Text.trim s.toList).dropWhile (· == '#')).takeWhile (· == '!'), ?_, ?_⟩
  · rw [body, List.append_assoc, List.takeWhile_append_dropWhile, List.takeWhile_append_dropWhile]
  · intro c hc
    rcases List.mem_append.mp hc with hc | hc
    · exact Or.inl (by simpa using List.mem_takeWhile_imp hc)
    · exact Or.inr (by simpa using List.mem_takeWhile_imp hc)

/-- A blank stands before the slashes at the end of the trimmed text. -/
def EndsBlank (s : String) : Prop :=
  ((Text.trim s.toList).filter (· ≠ '/')).getLast?.any Text.isBlank = true
deriving Decidable

/-- No mark is a blank, so the last character that counts is one of the body. -/
theorem endsBlank_iff (s : String) :
    EndsBlank s ↔ (segments s).flatten.getLast?.any Text.isBlank = true := by
  obtain ⟨marks, htrim, hmarks⟩ := exists_marks s
  rw [EndsBlank, segments_eq, flatten_pieces, htrim, List.filter_append, List.getLast?_append]
  cases ((body s).filter (· ≠ '/')).getLast? with
  | some c => rfl
  | none =>
      rw [Option.none_or]
      refine iff_of_false (fun hany => ?_) Bool.false_ne_true
      obtain ⟨c, hlast, hblank⟩ := (Option.any_eq_true ..).mp hany
      have hc : c ∈ marks := List.mem_of_mem_filter (List.mem_of_getLast? hlast)
      rcases hmarks c hc with rfl | rfl <;> exact absurd hblank (by decide)

theorem parse_eq_ok_list_iff {s : String} : parse s = .ok .list ↔ segments s = [] := by
  unfold parse
  split
  · next hnil => simp [hnil]
  · next head rest hcons =>
      rw [hcons]
      split
      · split <;> simp
      · simp

/-- What is read of a bug are two segments. -/
theorem isSegment_of_parse {s project id : String} (h : parse s = .ok (.bug project id)) :
    IsSegment project ∧ IsSegment id := by
  have hsegments := parse_eq_ok_bug_iff.mp h
  have hmem : ∀ part ∈ [project.toList, id.toList], part ∈ pieces (body s) := by
    intro part hpart
    rw [← segments_eq, hsegments]
    exact List.mem_cons_of_mem _ hpart
  exact ⟨isSegment_of_mem_pieces (hmem _ (by simp)), isSegment_of_mem_pieces (hmem _ (by simp))⟩

/-- The blank before the last slashes of a text ends the commit that is read from it. -/
theorem endsBlank_iff_of_parse {s project id : String} (h : parse s = .ok (.bug project id)) :
    EndsBlank s ↔ ¬ ∀ c ∈ id.toList.getLast?, Text.isBlank c = false := by
  have hne : id.toList ≠ [] := fun hnil =>
    (isSegment_of_parse h).2.1 (String.toList_eq_nil_iff.mp hnil)
  have hflatten : (segments s).flatten = ['b', 'u', 'g'] ++ project.toList ++ id.toList := by
    rw [parse_eq_ok_bug_iff.mp h]
    simp
  rw [endsBlank_iff, hflatten, List.getLast?_append_of_ne_nil _ hne, Option.any_eq_true]
  simp

/-! ## The text of what was read -/

/-- **What is read from the text of a bug's route** is the bug without the blanks
that end its commit, if anything else is left of the commit. -/
theorem parse_text_of_isSegment {project id : String} (hproject : IsSegment project)
    (hid : IsSegment id) : parse (text (.bug project id)) =
      if Text.trimmedRight id = "" then
        .error (.route (text (.bug project id)) "expected /bug/<project>/<id>")
      else .ok (.bug project (Text.trimmedRight id)) := by
  have hslash : '/' ∉ Text.trimRight id.toList := fun hmem =>
    hid.2 (Text.mem_of_mem_trimRight hmem)
  have hsegments : segments (text (.bug project id)) = ['b', 'u', 'g'] :: project.toList ::
      if (Text.trimRight id.toList).isEmpty then [] else [Text.trimRight id.toList] := by
    rw [segments_text_bug, pieces_of_isSegment hproject, pieces_of_not_mem hslash]
    rfl
  by_cases hempty : Text.trimRight id.toList = []
  · have htrimmed : Text.trimmedRight id = "" := by
      rw [Text.trimmedRight, hempty, String.ofList_nil]
    rw [hempty] at hsegments
    rw [if_pos htrimmed, parse, hsegments]
    rfl
  · have htrimmed : Text.trimmedRight id ≠ "" := by
      rw [Text.trimmedRight, Ne, String.ofList_eq_empty_iff]
      exact hempty
    rw [if_neg htrimmed, parse_eq_ok_bug_iff, hsegments, if_neg (by simpa using hempty),
      Text.trimmedRight, String.toList_ofList]

/-- A commit without the blanks at its end is read back. -/
theorem parse_text_trimmedRight {project id : String} (hproject : IsSegment project)
    (hid : IsSegment id) (hne : Text.trimmedRight id ≠ "") :
    parse (text (.bug project (Text.trimmedRight id))) =
      .ok (.bug project (Text.trimmedRight id)) := by
  have hlist : (Text.trimmedRight id).toList = Text.trimRight id.toList := by
    rw [Text.trimmedRight, String.toList_ofList]
  refine (parse_text_ofRecord_iff (.new project (Text.trimmedRight id))).mpr
    ⟨hproject, ⟨hne, ?_⟩, ?_⟩
  · rw [Record.new, hlist]
    exact fun hmem => hid.2 (Text.mem_of_mem_trimRight hmem)
  · rw [Record.new, hlist]
    exact Text.not_isBlank_of_mem_getLast?_trimRight

/-- What becomes of a route that was read from `s`, shown and read again. -/
structure Reshown (s : String) (r : Route) : Prop where
  /-- It is the same route exactly if no blank stands before the slashes at the end of `s`. -/
  same_iff : parse r.text = .ok r ↔ ¬ EndsBlank s
  /-- A bug's commit loses the blanks at its end; if nothing is left, the text is refused. -/
  trimmed : ∀ project id, r = .bug project id → parse r.text =
    if Text.trimmedRight id = "" then .error (.route r.text "expected /bug/<project>/<id>")
    else .ok (.bug project (Text.trimmedRight id))
  /-- After that, showing and reading changes nothing any more. -/
  settled : ∀ r', parse r.text = .ok r' → parse r'.text = .ok r'

/-- **Showing what was read.**  A route that was read from a text is read back from
its own text, unless a blank stood before the slashes at the end of the text. -/
theorem reshown_of_parse {s : String} {r : Route} (h : parse s = .ok r) : Reshown s r := by
  cases r with
  | list =>
      have hnil := parse_eq_ok_list_iff.mp h
      refine ⟨iff_of_true rfl fun hblank => ?_, nofun, ?_⟩
      · rw [endsBlank_iff, hnil] at hblank
        cases hblank
      · rintro r' ⟨⟩
        rfl
  | bug project id =>
      obtain ⟨hproject, hid⟩ := isSegment_of_parse h
      have hread := parse_text_of_isSegment hproject hid
      refine ⟨?_, ?_, ?_⟩
      · rw [endsBlank_iff_of_parse h, not_not]
        exact (parse_text_ofRecord_iff (.new project id)).trans
          ⟨fun haddressable => haddressable.unblanked, fun hblank => ⟨hproject, hid, hblank⟩⟩
      · rintro _ _ ⟨⟩
        exact hread
      · intro r' hr'
        rw [hread] at hr'
        split at hr'
        · cases hr'
        · next hne =>
            cases hr'
            exact parse_text_trimmedRight hproject hid hne

/-- A route with marks, slashes and blanks about it is read back from its text. -/
theorem reshown_of_hashRoute :
    parse " #!/bug//Lang/ 42// " = .ok (.bug "Lang" " 42") ∧ ¬ EndsBlank " #!/bug//Lang/ 42// " ∧
      Reshown " #!/bug//Lang/ 42// " (.bug "Lang" " 42") :=
  ⟨rfl, by decide, reshown_of_parse rfl⟩

/-- **A blank before the last slash is lost.**  It ends the commit that is read, but
from the text of that route it is trimmed. -/
theorem blank_before_slash_is_lost :
    parse "/bug/A/1 /" = .ok (.bug "A" "1 ") ∧
      parse (text (.bug "A" "1 ")) = .ok (.bug "A" "1") ∧
        parse (text (.bug "A" "1 ")) ≠ .ok (.bug "A" "1 ") := by
  have hread : parse (text (.bug "A" "1 ")) = .ok (.bug "A" "1") := rfl
  refine ⟨rfl, hread, fun h => ?_⟩
  have hroute : Route.bug "A" "1" = .bug "A" "1 " := Except.ok.inj (hread.symm.trans h)
  exact absurd hroute (by decide)

end DefectCatalog.Route
