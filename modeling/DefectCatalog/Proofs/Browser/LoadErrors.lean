import DefectCatalog.Document
import DefectCatalog.Proofs.Browser.Following

/-!
# Load errors in the footer

The footer has room for one message.  A bug list that arrives always writes it,
be it with the news or with the error; a classification writes it only with an
error.  So an error of the bug list stays whatever the classification brings,
but an error of the classification is gone once a bug list is loaded after it
(`showsError_iff`).
-/

namespace DefectCatalog.Browser

/-- The footer shows an error. -/
def ShowsError (b : Browser) : Prop :=
  b.status.level = .error ∧ b.status.message.isSome
deriving Decidable

/-- Following the view does not touch the footer. -/
theorem status_catchUp (b : Browser) : b.catchUp.status = b.status := by
  obtain ⟨_, _, _, heq⟩ := b.catchUp_eq_with
  rw [heq]

theorem status_act (b : Browser) (op : View.Operation) : (b.act op).status = b.status :=
  status_catchUp _

variable (b : Browser) (records : Except CatalogError (List Record))
  (taxonomy : Except CatalogError Taxonomy)

/-- A bug list that arrives writes the footer in any case. -/
theorem showsError_takeRecords_iff :
    (b.takeRecords records).ShowsError ↔ ∃ e, records = .error e := by
  cases records with
  | ok records => simp [ShowsError, takeRecords, status_act, inform, StatusLine.inform]
  | error e => simp [ShowsError, takeRecords, status_catchUp, report, StatusLine.report]

/-- A classification that arrives leaves the footer as it is, or writes an error. -/
theorem showsError_takeTaxonomy_iff :
    (b.takeTaxonomy taxonomy).ShowsError ↔ b.ShowsError ∨ ∃ e, taxonomy = .error e := by
  cases taxonomy with
  | ok taxonomy => simp [ShowsError, takeTaxonomy, status_act]
  | error e => simp [ShowsError, takeTaxonomy, status_catchUp, report, StatusLine.report]

/-- **When an error of loading is still shown** after both documents arrived: in
any case if the bug list came first, but if it came last only for an error of its
own. -/
theorem showsError_iff :
    (((b.takeRecords records).takeTaxonomy taxonomy).ShowsError ↔
        (∃ e, records = .error e) ∨ ∃ e, taxonomy = .error e) ∧
      (((b.takeTaxonomy taxonomy).takeRecords records).ShowsError ↔ ∃ e, records = .error e) := by
  constructor
  · rw [showsError_takeTaxonomy_iff, showsError_takeRecords_iff]
  · exact showsError_takeRecords_iff _ records

/-- **The error of a classification is lost** when the bug list is loaded after it:
the footer told of the error, and tells of the bugs instead. -/
theorem taxonomy_error_overwritten :
    (∃ e, readTaxonomy "[]" = .error e) ∧
      ((new {}).takeTaxonomy (readTaxonomy "[]")).ShowsError ∧
      (((new {}).takeTaxonomy (readTaxonomy "[]")).takeRecords (readRecords "[]")).status =
        { message := some "Loaded 0 bugs", level := .info, timed := true } ∧
      ¬ (((new {}).takeTaxonomy (readTaxonomy "[]")).takeRecords (readRecords "[]")).ShowsError := by
  have htaxonomy : readTaxonomy "[]" =
      .error (wrongShape "classification" "expected an object of categories") := rfl
  have hrecords : readRecords "[]" = .ok [] := rfl
  rw [htaxonomy, hrecords, showsError_takeTaxonomy_iff, showsError_takeRecords_iff]
  refine ⟨⟨_, rfl⟩, Or.inr ⟨_, rfl⟩, ?_, by simp⟩
  rw [takeRecords, status_act]
  rfl

end DefectCatalog.Browser
