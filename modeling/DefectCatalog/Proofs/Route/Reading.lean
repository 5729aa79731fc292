import DefectCatalog.Route
import DefectCatalog.Proofs.Document.Records
import DefectCatalog.Proofs.Text.Splitting

/-!
# Reading the text of a route

The text of a bug's route holds project and commit as they are.  Reading trims
the text, cuts it at the slashes and drops the empty parts, so it takes apart
what was one (`segments_text_bug`).  Project and commit come back exactly if
both are segments and no blank ends the commit (`parse_text_bug_iff`).

A bug list may hold any project and any commit.  `finds_text_iff` says which of
its records are found again by the text of their route.
-/

namespace DefectCatalog

namespace Route

/-- A string that reading leaves whole between two slashes. -/
def IsSegment (s : String) : Prop :=
  s ≠ "" ∧ '/' ∉ s.toList
deriving Decidable

/-- Reading a text leads to the record at position `i` of a list. -/
def Finds (text : String) (records : List Record) (i : Nat) : Prop :=
  ∃ project id, parse text = .ok (.bug project id) ∧ Record.position? records project id = some i

end Route

/-- The identity of a record stands whole in the text of its route. -/
structure Record.Addressable (r : Record) : Prop where
  project : Route.IsSegment r.project
  commit : Route.IsSegment r.commit
  /-- The commit ends the text, whose blanks at the end do not count. -/
  unblanked : ∀ c ∈ r.commit.toList.getLast?, Text.isBlank c = false

namespace Route

/-! ## Taking a text apart -/

/-- The parts of a text between slashes that are not empty. -/
def pieces (s : List Char) : List (List Char) :=
  (Text.splitAt '/' s).filter fun part => !part.isEmpty

theorem pieces_append (before after : List Char) :
    pieces (before ++ '/' :: after) = pieces before ++ pieces after := by
  rw [pieces, Text.splitAt_append, List.filter_append]
  rfl

theorem pieces_of_not_mem {s : List Char} (h : '/' ∉ s) :
    pieces s = if s.isEmpty then [] else [s] := by
  cases s <;> simp [pieces, Text.splitAt_of_not_mem h]

theorem pieces_of_isSegment {s : String} (h : IsSegment s) : pieces s.toList = [s.toList] := by
  have hne : s.toList ≠ [] := fun hnil => h.1 (String.toList_eq_nil_iff.mp hnil)
  rw [pieces_of_not_mem h.2, if_neg (by simpa using hne)]

theorem isSegment_of_mem_pieces {s : String} {body : List Char} (h : s.toList ∈ pieces body) :
    IsSegment s := by
  obtain ⟨hmem, hne⟩ := List.mem_filter.mp h
  refine ⟨?_, Text.not_mem_of_mem_splitAt hmem⟩
  rintro rfl
  simp at hne

/-- Only the blanks at the end of the text are trimmed, since it starts with a slash. -/
theorem trim_text_bug (project id : String) :
    Text.trim (text (.bug project id)).toList =
      ('/' :: ['b', 'u', 'g']) ++ '/' :: (project.toList ++ '/' :: Text.trimRight id.toList) := by
  have hslash : Text.isBlank '/' = false := by decide
  have htext : (text (.bug project id)).toList =
      ('/' :: ['b', 'u', 'g'] ++ '/' :: project.toList) ++ '/' :: id.toList := by
    simp [text]
  have hleft : Text.trimLeft (text (.bug project id)).toList = (text (.bug project id)).toList := by
    rw [htext]
    simp [Text.trimLeft, hslash]
  rw [Text.trim, hleft, htext, Text.trimRight_append_cons hslash]
  simp

/-- **Reading takes a route apart.**  After the leading word stand the pieces of
the project, then those of the commit without the blanks at its end. -/
theorem segments_text_bug (project id : String) :
    segments (text (.bug project id)) =
      ['b', 'u', 'g'] :: (pieces project.toList ++ pieces (Text.trimRight id.toList)) := by
  have hmarks : segments (text (.bug project id)) =
      pieces (Text.trim (text (.bug project id)).toList) := by
    rw [segments, trim_text_bug]
    rfl
  rw [hmarks, trim_text_bug, pieces_append, pieces_append]
  rfl

/-- A route is read from two segments behind the leading word. -/
theorem parse_eq_ok_bug_iff {s project id : String} :
    parse s = .ok (.bug project id) ↔
      segments s = [['b', 'u', 'g'], project.toList, id.toList] := by
  unfold parse
  split
  · next hnil => simp [hnil]
  · next head rest hcons =>
      rw [hcons]
      by_cases hhead : head = ['b', 'u', 'g']
      · rw [if_pos hhead]
        split
        · simp [hhead, ← String.toList_inj]
        · next hrest =>
            constructor
            · intro h
              cases h
            · intro h
              exact absurd (List.cons.inj h).2 (hrest _ _)
      · rw [if_neg hhead]
        simp [hhead]

/-- **A route is read back exactly if its parts stand whole in its text.** -/
theorem parse_text_ofRecord_iff (r : Record) :
    parse (ofRecord r).text = .ok (ofRecord r) ↔ r.Addressable := by
  rw [ofRecord, parse_eq_ok_bug_iff, segments_text_bug, List.cons.injEq, and_iff_right rfl]
  constructor
  · intro h
    have hsegment : ∀ s : String, s.toList ∈ [r.project.toList, r.commit.toList] →
        IsSegment s := by
      intro s hs
      rw [← h, List.mem_append] at hs
      exact hs.elim isSegment_of_mem_pieces isSegment_of_mem_pieces
    have hproject : IsSegment r.project := hsegment _ (by simp)
    have hcommit : IsSegment r.commit := hsegment _ (by simp)
    refine ⟨hproject, hcommit, Text.trimRight_eq_self_iff.mp ?_⟩
    -- one piece is left for the commit, and without a slash that is all of the trimmed text
    have hslash : '/' ∉ Text.trimRight r.commit.toList :=
      fun hmem => hcommit.2 (Text.mem_of_mem_trimRight hmem)
    rw [pieces_of_isSegment hproject, pieces_of_not_mem hslash] at h
    split at h
    · simp at h
    · simpa using h
  · rintro ⟨hproject, hcommit, hunblanked⟩
    rw [Text.trimRight_eq_self_iff.mpr hunblanked, pieces_of_isSegment hproject,
      pieces_of_isSegment hcommit]
    rfl

end Route

/-! ## Finding a record again -/

/-- Among distinct identities, that of a record is found at its own position. -/
theorem Record.position?_of_nodup {records : List Record} (h : (records.map Record.id).Nodup)
    {i : Nat} {r : Record} (hr : records[i]? = some r) :
    Record.position? records r.project r.commit = some i := by
  obtain ⟨hi, rfl⟩ := List.getElem?_eq_some_iff.mp hr
  refine List.findIdx?_eq_some_iff_getElem.mpr ⟨hi, by simp [Record.isAt], ?_⟩
  intro j hj hat
  have hi' : i < (records.map Record.id).length := by simpa using hi
  have hj' : j < (records.map Record.id).length := Nat.lt_trans hj hi'
  have hid : (records.map Record.id)[j] = (records.map Record.id)[i] := by
    simpa [Record.isAt, Record.id] using hat
  exact absurd (h.getElem_inj_iff.mp hid) (Nat.ne_of_lt hj)

namespace Route

/-- **The records that their displayed route finds.**  In a bug list that was
read, the text of a record's route leads back to that very record exactly if
project and commit are not empty and without a slash, and no blank ends the
commit. -/
theorem finds_text_iff {document : String} {records : List Record}
    (h : readRecords document = .ok records) {i : Nat} {r : Record} (hr : records[i]? = some r) :
    Finds (ofRecord r).text records i ↔ r.Addressable := by
  rw [← parse_text_ofRecord_iff]
  constructor
  · rintro ⟨project, id, hparse, hfound⟩
    obtain ⟨hi, hat, -⟩ := List.findIdx?_eq_some_iff_getElem.mp hfound
    obtain rfl : records[i] = r := (List.getElem?_eq_some_iff.mp hr).2
    have hroute : ofRecord records[i] = .bug project id := by
      simpa [ofRecord, Record.isAt] using hat
    rw [hparse, hroute]
  · intro hparse
    have hfound := Record.position?_of_nodup (nodup_id_of_readRecords h) hr
    exact ⟨r.project, r.commit, hparse, hfound⟩

/-- Two bugs of one project, whose commits differ in a blank at the end. -/
def blankAfterCommit : String :=
  "[\x7b\"project\":\"A\",\"commit\":1\x7d,\x7b\"project\":\"A\",\"commit\":\"1 \"\x7d]"

/-- The route of the first bug finds it; that of the second one does not. -/
theorem finds_text_iff_of_blankAfterCommit :
    ∃ records, readRecords blankAfterCommit = .ok records ∧
      records[0]? = some (.new "A" "1") ∧ Finds (ofRecord (.new "A" "1")).text records 0 ∧
      records[1]? = some (.new "A" "1 ") ∧ ¬ Finds (ofRecord (.new "A" "1 ")).text records 1 := by
  have hread : readRecords blankAfterCommit = .ok [.new "A" "1", .new "A" "1 "] := rfl
  refine ⟨_, hread, rfl, ?_, rfl, ?_⟩
  · refine (finds_text_iff hread rfl).mpr ⟨by decide, by decide, ?_⟩
    rintro c ⟨⟩
    decide
  · intro h
    have hunblanked := ((finds_text_iff hread rfl).mp h).unblanked ' ' rfl
    exact absurd hunblanked (by decide)

/-- A bug whose project has a slash in its name. -/
def slashInProject : String :=
  "[\x7b\"project\":\"a/b\",\"commit\":1\x7d]"

/-- **Not every loaded bug is found by its displayed route.**  A slash in the
project makes the text one that reading refuses. -/
theorem slash_in_project_not_found :
    ∃ records, readRecords slashInProject = .ok records ∧ records[0]? = some (.new "a/b" "1") ∧
      parse (ofRecord (.new "a/b" "1")).text =
        .error (.route "/bug/a/b/1" "expected /bug/<project>/<id>") ∧
      ¬ Finds (ofRecord (.new "a/b" "1")).text records 0 := by
  refine ⟨[.new "a/b" "1"], rfl, rfl, rfl, ?_⟩
  rintro ⟨project, id, hparse, -⟩
  cases hparse

end Route

end DefectCatalog
