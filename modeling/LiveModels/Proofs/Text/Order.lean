import Mathlib.Data.List.Forall2

/-!
# Lists in the order of texts

Lists that are sorted by a text of each member. If the text tells the members apart, a sorted list
ascends strictly and does not depend on the order in which its members were given.
-/

namespace LiveModels.Text

variable {α β : Type}

/-- The members of a sorted list ascend. -/
theorem pairwise_le_mergeSort (k : α → String) (xs : List α) :
  (xs.mergeSort fun a b => decide (k a ≤ k b)).Pairwise fun a b => k a ≤ k b
  := by
  apply (List.pairwise_mergeSort _ _ xs).imp
  · intro a b h
    apply of_decide_eq_true h
  · intro a b c hab hbc
    apply decide_eq_true
    apply String.le_trans (of_decide_eq_true hab) (of_decide_eq_true hbc)
  · intro a b
    rw [Bool.or_eq_true, decide_eq_true_eq, decide_eq_true_eq]
    apply String.le_total

/-- The members of a sorted list ascend strictly if they are told apart. -/
theorem pairwise_lt_mergeSort {k : α → String} {xs : List α} (h : (xs.map k).Nodup) :
  (xs.mergeSort fun a b => decide (k a ≤ k b)).Pairwise fun a b => k a < k b
  := by
  have hnodup : ((xs.mergeSort fun a b => decide (k a ≤ k b)).map k).Nodup :=
    ((List.mergeSort_perm xs _).map k).symm.nodup h
  apply ((pairwise_le_mergeSort k xs).and (List.pairwise_map.mp hnodup)).imp
  rintro a b ⟨hle, hne⟩
  rw [← String.not_le]
  intro hge
  apply hne (String.le_antisymm hle hge)

/-- A sorted list does not depend on the order in which its members are given, if they are told
apart. -/
theorem mergeSort_eq_of_perm {k : α → String} {xs ys : List α}
    (hkey : ∀ a ∈ xs, ∀ b ∈ xs, k a = k b → a = b) (h : xs.Perm ys) :
  (xs.mergeSort fun a b => decide (k a ≤ k b)) =
    ys.mergeSort fun a b => decide (k a ≤ k b)
  := by
  apply List.Perm.eq_of_pairwise _ (pairwise_le_mergeSort k xs) (pairwise_le_mergeSort k ys)
  · exact ((List.mergeSort_perm _ _).trans h).trans (List.mergeSort_perm _ _).symm
  · intro a b ha hb hab hba
    apply hkey a (List.mem_mergeSort.mp ha) b (h.mem_iff.mpr (List.mem_mergeSort.mp hb))
    apply String.le_antisymm hab hba

/-- Lists that correspond member by member still do when they are sorted. -/
theorem forall₂_mergeSort {r : α → β → Prop} {k : α → String} {k' : β → String} {xs : List α}
    {ys : List β} (h : List.Forall₂ r xs ys) (hkey : ∀ a b, r a b → k a = k' b) :
  List.Forall₂ r (xs.mergeSort fun a b => decide (k a ≤ k b))
    (ys.mergeSort fun a b => decide (k' a ≤ k' b))
  := by
  -- Both lists are sorted as the list of the corresponding pairs is.
  obtain ⟨pairs, rfl, rfl, hpairs⟩ : ∃ pairs : List (α × β), pairs.map Prod.fst = xs ∧
      pairs.map Prod.snd = ys ∧ ∀ pair ∈ pairs, r pair.1 pair.2 := by
    obtain ⟨hlength, hmem⟩ := List.forall₂_iff_zip.mp h
    exact ⟨xs.zip ys, List.map_fst_zip (Nat.le_of_eq hlength),
      List.map_snd_zip (Nat.le_of_eq hlength.symm), fun _ => hmem⟩
  have hfst := List.map_mergeSort (l := pairs) (f := Prod.fst)
    (r := fun a b => decide (k a.1 ≤ k b.1)) (s := fun a b => decide (k a ≤ k b))
    fun _ _ _ _ => rfl
  have hsnd := List.map_mergeSort (l := pairs) (f := Prod.snd)
    (r := fun a b => decide (k a.1 ≤ k b.1)) (s := fun a b => decide (k' a ≤ k' b)) (by
      intro a ha b hb
      rw [hkey _ _ (hpairs a ha), hkey _ _ (hpairs b hb)])
  rw [← hfst, ← hsnd, List.forall₂_map_left_iff, List.forall₂_map_right_iff, List.forall₂_same]
  intro pair hpair
  apply hpairs pair (List.mem_mergeSort.mp hpair)

end LiveModels.Text
