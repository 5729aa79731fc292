import DefectCatalog.Proofs.Sorting.Order

/-!
# Sorting is stable

What sorting items by their records gives, for every sorting: the same items,
in the order of their records, and items whose records compare equal in the
order in which they were given.  The last point, `pairwise_sortBy`, is stated
for any relation that holds along the given list.
-/

namespace DefectCatalog.Sorting

variable {α : Type} (s : Sorting) (record : α → Record)

/-- The comparison that `sortBy` uses is transitive. -/
theorem isLE_record_trans (a b c : α) :
    (s.compare (record a) (record b)).isLE → (s.compare (record b) (record c)).isLE →
      (s.compare (record a) (record c)).isLE :=
  (transCmp s).isLE_trans

/-- Sorting keeps exactly the given items. -/
theorem sortBy_perm (items : List α) : (s.sortBy record items).Perm items :=
  List.mergeSort_perm items _

/-- The records of sorted items are the sorted records of the items. -/
theorem map_sortBy (items : List α) :
    (s.sortBy record items).map record = s.sort (items.map record) :=
  List.map_mergeSort fun _ _ _ _ => rfl

/-- The first item finds its place behind the items below it and before all
others; the others do not move against each other. -/
theorem sortBy_cons (a : α) (items : List α) :
    ∃ before after,
      s.sortBy record (a :: items) = before ++ a :: after ∧
      s.sortBy record items = before ++ after ∧
      ∀ b ∈ before, s.compare (record b) (record a) = .lt := by
  obtain ⟨before, after, hall, hrest, hlow⟩ :=
    List.mergeSort_cons (s.isLE_record_trans record) (fun a b => s.isLE_total _ _) a items
  refine ⟨before, after, hall, hrest, ?_⟩
  intro b hb
  have hnot := hlow b hb
  rw [s.compare_swap (record b)]
  cases hc : s.compare (record a) (record b) <;> simp [hc] at hnot ⊢

/-- Sorted items follow each other in the order of their records. -/
theorem pairwise_isLE_sortBy (items : List α) :
    (s.sortBy record items).Pairwise fun a b => (s.compare (record a) (record b)).isLE :=
  List.pairwise_mergeSort (s.isLE_record_trans record) (fun _ _ => s.isLE_total _ _) items

/-- **Stability.**  Two sorted items are ordered by their records; where these
compare equal, the items are related as they were in the given list. -/
theorem pairwise_sortBy {R : α → α → Prop} {items : List α} (h : items.Pairwise R) :
    (s.sortBy record items).Pairwise fun a b =>
      s.compare (record a) (record b) = .lt ∨
        s.compare (record a) (record b) = .eq ∧ R a b := by
  induction items with
  | nil => simp [sortBy]
  | cons a items ih =>
      obtain ⟨hhead, htail⟩ := List.pairwise_cons.mp h
      obtain ⟨before, after, hall, hrest, hlow⟩ := s.sortBy_cons record a items
      have hsorted := s.pairwise_isLE_sortBy record (a :: items)
      have hih := ih htail
      rw [hall] at hsorted ⊢
      rw [hrest] at hih
      obtain ⟨hbefore, hafter, hacross⟩ := List.pairwise_append.mp hih
      have habove : ∀ b ∈ after,
          s.compare (record a) (record b) = .lt ∨
            s.compare (record a) (record b) = .eq ∧ R a b := by
        intro b hb
        have hle := (List.pairwise_cons.mp (List.pairwise_append.mp hsorted).2.1).1 b hb
        have hmem : b ∈ items := by
          rw [← (s.sortBy_perm record items).mem_iff, hrest]
          exact List.mem_append_right _ hb
        rcases Ordering.isLE_iff_eq_lt_or_eq_eq.mp hle with hlt | heq
        · exact Or.inl hlt
        · exact Or.inr ⟨heq, hhead b hmem⟩
      refine List.pairwise_append.mpr ⟨hbefore, List.pairwise_cons.mpr ⟨habove, hafter⟩, ?_⟩
      intro x hx y hy
      rcases List.mem_cons.mp hy with rfl | hy
      · exact Or.inl (hlow x hx)
      · exact hacross x hx y hy

end DefectCatalog.Sorting
