import DefectCatalog.Proofs.OrderedMap.Updates
import DefectCatalog.Proofs.View.Arranged
import DefectCatalog.Report.Listing
import DefectCatalog.View.Operation
import Mathlib.Algebra.BigOperators.Group.List.Lemmas
import Mathlib.Algebra.GroupWithZero.Nat

/-!
# The projects of a listing

A listing counts its records by project while it goes through them, and the records of
a project need not stand together.  Counting is updating a map, so the projects stand in
the order in which they appear first, each with the number of its records
(`perProject_eq`).  The order of the records decides the order of the projects and
nothing else: however a view is sorted, its projects have the same numbers
(`projects_counted`).
-/

namespace DefectCatalog.Report

namespace Listing

variable {l l' : Listing} {p : String} {n : Nat}

/-- **Counting keeps projects apart**: each has the number of its own records, in the order
of first appearance. -/
theorem perProject_eq (l : Listing) : l.perProject =
    (l.records.map Record.project).eraseDups.map fun p =>
      (p, l.records.countP fun r => r.project = p) := by
  -- the list of pairs is that of a map, which the records update one by one
  have hupdates : l.perProject =
      (OrderedMap.updateAll 0 Record.project (fun _ n => n + 1) l.records).entries := by
    show l.records.foldl tally OrderedMap.empty.entries = _
    exact List.foldl_hom OrderedMap.entries fun _ _ => rfl
  rw [hupdates, OrderedMap.entries_updateAll]
  refine List.map_congr_left fun p _ => ?_
  rw [List.foldl_add_const, List.countP_eq_length_filter, Nat.zero_add, Nat.one_mul]

theorem projects_perProject (l : Listing) :
    l.perProject.map Prod.fst = (l.records.map Record.project).eraseDups := by
  rw [perProject_eq, List.map_map]
  exact List.map_id _

theorem mem_perProject : (p, n) ∈ l.perProject ↔
    (∃ r ∈ l.records, r.project = p) ∧ n = l.records.countP fun r => r.project = p := by
  rw [perProject_eq, List.mem_map]
  simp only [List.mem_eraseDups, List.mem_map, Prod.mk.injEq]
  constructor
  · intro h
    obtain ⟨q, hq, rfl, rfl⟩ := h
    exact ⟨hq, rfl⟩
  · intro h
    exact ⟨p, h.1, rfl, h.2.symm⟩

theorem nodup_projects (l : Listing) : (l.perProject.map Prod.fst).Nodup := by
  rw [projects_perProject]
  apply (pairwise_idxOf_eraseDups _).imp
  intro p q hlt heq
  rw [heq] at hlt
  exact Nat.lt_irrefl _ hlt

/-- The numbers of all projects together are the number of records. -/
theorem sum_perProject (l : Listing) : (l.perProject.map Prod.snd).sum = l.records.length := by
  -- the library adds up over `dedup`, which lists the projects in another order
  have hdistinct : (l.records.map Record.project).eraseDups.Perm
      (l.records.map Record.project).dedup := by
    have hnodup := l.nodup_projects
    rw [projects_perProject] at hnodup
    apply (List.perm_ext_iff_of_nodup hnodup (List.nodup_dedup _)).mpr
    intro p
    rw [List.mem_eraseDups, List.mem_dedup]
  have hcount : ∀ p : String, (l.records.countP fun r => r.project = p) =
      (l.records.map Record.project).count p := fun p => by
    rw [List.count, List.countP_map]
    rfl
  calc (l.perProject.map Prod.snd).sum
      = ((l.records.map Record.project).eraseDups.map
          fun p => (l.records.map Record.project).count p).sum := by
        rw [perProject_eq, List.map_map]
        simp only [Function.comp_def, hcount]
    _ = ((l.records.map Record.project).dedup.map
          fun p => (l.records.map Record.project).count p).sum := (hdistinct.map _).sum_eq
    _ = l.records.length := by rw [List.sum_map_count_dedup_eq_length, List.length_map]

/-- Listings of the same records have the same projects with the same numbers. -/
theorem perm_perProject (h : l.records.Perm l'.records) : l.perProject.Perm l'.perProject := by
  apply (List.perm_ext_iff_of_nodup l.nodup_projects.of_map l'.nodup_projects.of_map).mpr
  intro e
  rw [mem_perProject, mem_perProject, h.countP_eq]
  simp only [h.mem_iff]

/-- What a listing tells of its projects. -/
structure CountsProjects (l : Listing) : Prop where
  /-- The projects are those of the records, -/
  mem_iff : ∀ p, p ∈ l.perProject.map Prod.fst ↔ ∃ r ∈ l.records, r.project = p
  /-- each once, -/
  once : (l.perProject.map Prod.fst).Nodup
  /-- in the order of first appearance, -/
  ordered : (l.perProject.map Prod.fst).Pairwise fun p q =>
    (l.records.map Record.project).idxOf p < (l.records.map Record.project).idxOf q
  /-- and each has the number of its records. -/
  number : ∀ p n, (p, n) ∈ l.perProject → n = l.records.countP fun r => r.project = p
  /-- The numbers add up to that of all records. -/
  sum_eq : (l.perProject.map Prod.snd).sum = l.records.length
  /-- In every order of the records, they are the same up to order. -/
  reordered : ∀ l' : Listing, l'.records.Perm l.records → l'.perProject.Perm l.perProject

theorem countsProjects (l : Listing) : l.CountsProjects where
  mem_iff p := by rw [projects_perProject, List.mem_eraseDups, List.mem_map]
  once := l.nodup_projects
  ordered := by
    rw [projects_perProject]
    exact pairwise_idxOf_eraseDups _
  number p n h := (mem_perProject.mp h).2
  sum_eq := l.sum_perProject
  reordered _ h := perm_perProject h

/-- Sorting a settled view anew shows the same records in another order. -/
theorem perm_visibleRecords_resorted {v : View} (hv : v.Settled) (s : Sorting) :
    (View.refresh { v with sort := s }).visibleRecords.Perm v.visibleRecords := by
  have hresorted := View.settled_refresh { v with sort := s }
  rw [hresorted.visibleRecords_eq, hv.visibleRecords_eq]
  exact (s.sortBy_perm id _).trans (v.sort.sortBy_perm id _).symm

/-- **Every project is counted once and completely.**  Every listing counts its records by
project, and the listing of a view has the visible records of the view.  After every run, the
view sorted in any other way shows the same records in another order, and it lists the same
projects with the same numbers. -/
theorem projects_counted (l : Listing) (sort : Sorting) (mode : Matching)
    (ops : List View.Operation) (s : Sorting) :
    let v := (View.new sort mode).performAll ops
    let w := View.refresh { v with sort := s }
    l.CountsProjects ∧
      ((ofView v).records = v.visibleRecords ∧ (ofView v).CountsProjects) ∧
      ((ofView w).records = w.visibleRecords ∧ w.visibleRecords.Perm v.visibleRecords ∧
        (ofView w).perProject.Perm (ofView v).perProject) := by
  intro v w
  have hperm : w.visibleRecords.Perm v.visibleRecords :=
    perm_visibleRecords_resorted (View.settled_performAll sort mode ops) s
  refine ⟨l.countsProjects, ⟨rfl, countsProjects _⟩, rfl, hperm, ?_⟩
  exact perm_perProject hperm

end Listing

end DefectCatalog.Report
