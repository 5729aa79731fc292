import DefectCatalog.Command.Labels
import DefectCatalog.Proofs.Document.Records
import DefectCatalog.Proofs.Filters.Matching
import DefectCatalog.Proofs.Taxonomy.Classify
import DefectCatalog.Proofs.View.Arrival

/-!
# The counts of flags are never stale

A view remembers the count of a flag once it was asked for it.  What it answers
is always the number of loaded records with the flag (`counted_trace`), whatever
was asked before, loaded before, or filtered: the memory agrees with the loaded
records (`Recalls`), and of all operations only `setRecords` changes these
(`records_perform`).
-/

namespace DefectCatalog

open Command

instance (r : Record) (key : String) : Decidable (r.IsTrue key) :=
  decidable_of_iff (r.flag key) Record.flag_iff_isTrue

namespace View

/-- The records that are loaded after operations on a view of `records`. -/
def loadedAfter (records : List Record) : List Operation → List Record
  | [] => records
  | .setRecords arrived :: ops => loadedAfter arrived ops
  | _ :: ops => loadedAfter records ops

/-- The number `n` is the count of a flag in some records, as a record has it
among its fields, lists it among its flags, and as the labels command shows it. -/
structure Counted (records : List Record) (key : String) (n : Nat) : Prop where
  isTrue : n = records.countP fun r => r.IsTrue key
  flags : n = records.countP fun r => key ∈ r.flags
  labels : Labels.count? (some records) key = some n
  /-- The row of an entry with that key. -/
  entry : ∀ e : Taxonomy.Entry, e.key = key →
    (Labels.entryJson (Labels.count? (some records)) e).member? "count" =
      some (.number (.integer n))

variable {records : List Record} {key : String}

theorem counted_countIn (records : List Record) (key : String) :
    Counted records key (countIn records key) where
  isTrue := by
    refine List.countP_congr fun r _ => ?_
    rw [decide_eq_true_iff]
    exact Record.flag_iff_isTrue
  flags := by
    refine List.countP_congr fun r _ => ?_
    rw [decide_eq_true_iff]
    exact Record.flag_iff_mem_flags
  labels := by rw [Labels.count?, Option.map_some, ← List.countP_eq_length_filter, countIn]
  entry e he := by
    have hcount : Labels.count? (some records) e.key = some (countIn records key) := by
      rw [Labels.count?, Option.map_some, ← List.countP_eq_length_filter, countIn, he]
    rw [Labels.entryJson, hcount]
    rfl

/-- **One operation.**  Only `setRecords` changes the loaded records. -/
theorem records_perform (v : View) (op : Operation) :
    (v.perform op).2.records = loadedAfter v.records [op] := by
  have hkept (hop : op.LooksAtNoDocument) : (v.perform op).2.records = v.records := by
    obtain ⟨f, hf⟩ := hop.steers
    exact congrArg Prod.fst (hf.documents_eq v)
  cases op with
  | setRecords arrived => rfl
  | setTaxonomy taxonomy => rfl
  | navigate route => exact hkept (.navigate route)
  | openAt position => exact (Operation.Travels.sameList (.openAt position) v).2.1
  | close => exact hkept .close
  | next => exact (Operation.Travels.next.sameList v).2.1
  | previous => exact (Operation.Travels.previous.sameList v).2.1
  | back => exact hkept .back
  | toggleFilter key => exact hkept (.toggleFilter key)
  | setFilter key active => exact hkept (.setFilter key active)
  | activateFilters keys => exact hkept (.activateFilters keys)
  | resetFilters => exact hkept .resetFilters
  | setMode mode => exact hkept (.setMode mode)
  | toggleMode => exact hkept .toggleMode
  | sortBy fields => exact hkept (.sortBy fields)
  | count key => exact hkept (.count key)
  | drain => exact hkept .drain

theorem loadedAfter_cons (records : List Record) (op : Operation) (ops : List Operation) :
    loadedAfter records (op :: ops) = loadedAfter (loadedAfter records [op]) ops := by
  cases op <;> rfl

theorem records_performAll (v : View) (ops : List Operation) :
    (v.performAll ops).records = loadedAfter v.records ops := by
  induction ops generalizing v with
  | nil => rfl
  | cons op ops ih => rw [performAll_cons, ih, records_perform, loadedAfter_cons v.records op ops]

/-- A step of a run is the operation done after those before it. -/
theorem getElem?_trace (v : View) (ops : List Operation) (i : Nat) :
    (v.trace ops)[i]? = ops[i]?.map ((v.performAll (ops.take i)).perform ·) := by
  induction ops generalizing v i with
  | nil => rfl
  | cons op ops ih =>
      cases i with
      | zero => rfl
      | succ i =>
          rw [trace, List.getElem?_cons_succ, List.getElem?_cons_succ, List.take_succ_cons,
            performAll_cons]
          exact ih _ i

/-- **Counts are never stale.**  In every run, whenever a count is asked for, the
answer is the count of the flag in the records that were loaded last. -/
theorem counted_trace (sort : Sorting) (mode : Matching) (ops : List Operation) (i : Nat)
    (hcount : ops[i]? = some (.count key)) :
    ∃ n w, ((new sort mode).trace ops)[i]? = some (.number n, w) ∧
      Counted (loadedAfter [] (ops.take i)) key n := by
  let v := (new sort mode).performAll (ops.take i)
  have hrecalls : v.Recalls := recalls_performAll (fun _ _ hn => by cases hn) (ops.take i)
  have hloaded : v.records = loadedAfter [] (ops.take i) := records_performAll _ (ops.take i)
  have hanswer : ((new sort mode).trace ops)[i]? =
      some (.number (v.count key).1, (v.count key).2) := by
    rw [getElem?_trace, hcount]
    rfl
  rw [hrecalls.count_eq, hloaded] at hanswer
  exact ⟨_, _, hanswer, counted_countIn _ key⟩

/-- A count that was asked for before the records arrived is not what is answered
afterwards, and a filter that hides a record does not change it. -/
theorem counted_trace_of_reload :
    let bugs := [(Record.new "Lang" "1").setField "crash" (.bool true),
      (Record.new "Lang" "2").setField "crash" (.string "true")]
    let ops : List Operation :=
      [.count "crash", .setRecords bugs, .toggleFilter "leak", .count "crash"]
    ops[3]? = some (.count "crash") ∧ loadedAfter [] (ops.take 3) = bugs ∧
      ∃ n w, (new.trace ops)[3]? = some (.number n, w) ∧ Counted bugs "crash" n ∧ n = 1 := by
  intro bugs ops
  obtain ⟨n, w, htrace, hcounted⟩ := counted_trace .default .all ops 3 rfl
  exact ⟨rfl, rfl, n, w, htrace, hcounted, hcounted.isTrue⟩

end View

end DefectCatalog
