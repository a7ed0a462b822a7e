import Mathlib.Data.List.Dedup
import TagAudit.Proofs.Json.Canonical
import TagAudit.Usage.Placeholder

/-!
# Lists with each element once

Erasing duplicates leaves each element once. What is left of two lists that differ in their order
differs in its order only, so sorting it leaves no difference.
-/

namespace TagAudit

variable {α : Type} [DecidableEq α]

/-- No duplicates are left. -/
theorem nodup_eraseDups (xs : List α) : xs.eraseDups.Nodup := by
  cases xs with
  | nil => exact List.nodup_nil
  | cons x xs =>
    rw [List.eraseDups_cons, List.nodup_cons]
    exact ⟨by simp, nodup_eraseDups _⟩
termination_by xs.length
decreasing_by simpa using Nat.lt_succ_of_le (List.length_filter_le ..)

/-- Lists with the same elements differ in their order at most, once duplicates are erased. -/
theorem eraseDups_perm_of_mem_iff {xs ys : List α} (h : ∀ x, x ∈ xs ↔ x ∈ ys) :
    xs.eraseDups.Perm ys.eraseDups := by
  refine (List.perm_ext_iff_of_nodup (nodup_eraseDups xs) (nodup_eraseDups ys)).mpr fun x => ?_
  rw [List.mem_eraseDups, List.mem_eraseDups, h]

/-- Whether the first or the last of equal elements are kept makes a difference of order only. -/
theorem eraseDups_perm_dedup (xs : List α) : xs.eraseDups.Perm xs.dedup := by
  refine (List.perm_ext_iff_of_nodup (nodup_eraseDups xs) xs.nodup_dedup).mpr fun x => ?_
  rw [List.mem_eraseDups, List.mem_dedup]

theorem length_eraseDups_le (xs : List α) : xs.eraseDups.length ≤ xs.length :=
  (eraseDups_perm_dedup xs).length_eq.trans_le xs.dedup_sublist.length_le

/-- As many elements are left exactly if there were no duplicates. -/
theorem length_eraseDups_eq_iff {xs : List α} : xs.eraseDups.length = xs.length ↔ xs.Nodup := by
  rw [(eraseDups_perm_dedup xs).length_eq, ← List.dedup_eq_self]
  exact ⟨xs.dedup_sublist.eq_of_length, congrArg List.length⟩

/-- The second list has the elements of the first one, each once, in the order in which they first
occur there. -/
structure FirstOccurrences (xs ys : List α) : Prop where
  nodup : ys.Nodup
  mem_iff : ∀ x, x ∈ ys ↔ x ∈ xs
  order : ys.Pairwise fun x y => xs.idxOf x < xs.idxOf y

/-- A last element is kept exactly if it is new. -/
theorem eraseDups_concat (xs : List α) (x : α) :
    (xs ++ [x]).eraseDups = if x ∈ xs then xs.eraseDups else xs.eraseDups ++ [x] := by
  rw [List.eraseDups_append]
  by_cases hx : x ∈ xs <;> simp [List.removeAll, hx, List.eraseDups_cons]

/-- Erasing duplicates keeps the order of first occurrences. -/
theorem pairwise_idxOf_eraseDups (xs : List α) :
    xs.eraseDups.Pairwise fun x y => xs.idxOf x < xs.idxOf y := by
  -- from the end: a new last element stands behind all others, which keep their places
  induction xs using List.reverseRecOn with
  | nil => exact .nil
  | append_singleton xs x ih =>
    have hold : ∀ y ∈ xs, (xs ++ [x]).idxOf y = xs.idxOf y :=
      fun y hy => List.idxOf_append_of_mem hy
    have hkept : xs.eraseDups.Pairwise fun y z => (xs ++ [x]).idxOf y < (xs ++ [x]).idxOf z := by
      refine ih.imp_of_mem fun {y z} hy hz hlt => ?_
      rw [hold y (List.mem_eraseDups.mp hy), hold z (List.mem_eraseDups.mp hz)]
      exact hlt
    rw [eraseDups_concat]
    split
    next => exact hkept
    next hx =>
      refine List.pairwise_append.mpr ⟨hkept, List.pairwise_singleton .., fun y hy z hz => ?_⟩
      have hmem : y ∈ xs := List.mem_eraseDups.mp hy
      rw [List.mem_singleton.mp hz, hold y hmem, List.idxOf_append_of_notMem hx]
      exact Nat.lt_add_right _ (List.idxOf_lt_length_of_mem hmem)

theorem firstOccurrences_eraseDups (xs : List α) : FirstOccurrences xs xs.eraseDups where
  nodup := nodup_eraseDups xs
  mem_iff _ := List.mem_eraseDups
  order := pairwise_idxOf_eraseDups xs

/-- Duplicates among values of a function are erased by comparing the values. -/
theorem eraseDupsBy_map {α β : Type} (r : β → β → Bool) (f : α → β) (xs : List α) :
    (xs.map f).eraseDupsBy r = (xs.eraseDupsBy fun x y => r (f x) (f y)).map f := by
  match xs with
  | [] => rfl
  | x :: xs =>
    rw [List.map_cons, List.eraseDupsBy_cons, List.eraseDupsBy_cons, List.map_cons,
      List.filter_map, eraseDupsBy_map]
    rfl
termination_by xs.length
decreasing_by exact Nat.lt_succ_of_le (List.length_filter_le ..)

/-- Sorting keeps the texts. -/
theorem Placeholder.mem_sortedOnce {text : String} {texts : List String} :
    text ∈ sortedOnce texts ↔ text ∈ texts := by
  rw [sortedOnce, List.mem_mergeSort, List.mem_eraseDups]

end TagAudit
