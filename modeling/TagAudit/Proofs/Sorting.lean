import Mathlib.Data.String.Basic

/-!
# Stable sorting by keys

A list sorted by keys has the elements of the list in the order of their keys, and elements of one
key keep the order in which they stood. So a list that was in order already is in that order
wherever the keys do not tell elements apart.
-/

namespace TagAudit

section Keys

variable {α κ : Type} [LinearOrder κ] {key : α → κ} {xs ys : List α}

/-- The second list is the first one sorted by keys; elements of one key keep their order. -/
structure StablySorted (key : α → κ) (xs ys : List α) : Prop where
  perm : ys.Perm xs
  sorted : ys.Pairwise fun a b => key a ≤ key b
  stable : ∀ k, ys.filter (key · = k) = xs.filter (key · = k)

/-- Merge sort by keys is stable. -/
theorem stablySorted_mergeSort (key : α → κ) (xs : List α) :
    StablySorted key xs (xs.mergeSort fun a b => key a ≤ key b) := by
  have htrans : ∀ a b c : α, decide (key a ≤ key b) = true → decide (key b ≤ key c) = true →
      decide (key a ≤ key c) = true := by
    intro a b c hab hbc
    exact decide_eq_true (le_trans (of_decide_eq_true hab) (of_decide_eq_true hbc))
  have htotal : ∀ a b : α, (decide (key a ≤ key b) || decide (key b ≤ key a)) = true := by
    intro a b
    simpa using le_total (key a) (key b)
  have hperm := List.mergeSort_perm xs fun a b => key a ≤ key b
  refine ⟨hperm, (List.pairwise_mergeSort htrans htotal xs).imp of_decide_eq_true, fun k => ?_⟩
  -- The elements of one key are in order already, so they stand in the sorted list as they are.
  have hinorder : (xs.filter (key · = k)).Pairwise fun a b => decide (key a ≤ key b) = true := by
    refine List.pairwise_filter.mpr (List.pairwise_of_forall fun a b => ?_)
    intro ha hb
    exact decide_eq_true ((of_decide_eq_true ha).trans_le (of_decide_eq_true hb).ge)
  have hsub := (List.sublist_mergeSort htrans htotal hinorder List.filter_sublist).filter
    (key · = k)
  rw [List.filter_filter] at hsub
  simp only [Bool.and_self] at hsub
  exact (hsub.eq_of_length (hperm.filter _).length_eq.symm).symm

/-- What holds along a list holds along the sorted one between elements of one key. -/
theorem StablySorted.pairwise_ties {R : α → α → Prop} (h : StablySorted key xs ys)
    (hxs : xs.Pairwise R) : ys.Pairwise fun a b => key a < key b ∨ key a = key b ∧ R a b := by
  refine List.pairwise_iff_forall_sublist.mpr fun {a b} hab => ?_
  rcases (h.sorted.forall_sublist hab).lt_or_eq with hlt | heq
  · exact .inl hlt
  · have hties : [a, b].Sublist (xs.filter (key · = key b)) := by
      rw [← h.stable]
      simpa [heq] using hab.filter (key · = key b)
    exact .inr ⟨heq, hxs.forall_sublist (hties.trans List.filter_sublist)⟩

end Keys

/-- Texts that differ are sorted in strictly ascending order. -/
theorem pairwise_lt_mergeSort {texts : List String} (h : texts.Nodup) :
    (texts.mergeSort fun a b => a ≤ b).Pairwise (· < ·) := by
  refine ((stablySorted_mergeSort id texts).pairwise_ties h).imp ?_
  rintro a b (hlt | ⟨heq, hne⟩)
  · exact hlt
  · exact absurd heq hne

end TagAudit
