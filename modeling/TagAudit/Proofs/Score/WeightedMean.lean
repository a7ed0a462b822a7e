import Mathlib.Algebra.BigOperators.Group.Finset.Basic
import Mathlib.Algebra.Order.BigOperators.Group.List
import Mathlib.Algebra.BigOperators.Ring.List
import Mathlib.Data.Finset.Max
import TagAudit.Proofs.Score.Exact
import TagAudit.Score.Weighted

/-!
# Weighted means

A mean with weights that are not negative, and one of which is positive, lies between the smallest
and the largest of the scores that have some weight. Where the scores lie between zero and one, so
does the mean, and moving it there changes nothing. A share of things flagged lies between zero and
one as well.
-/

namespace TagAudit

namespace Exact

/-- A rational between two bounds. -/
def Within (least most : ℚ) (x : Exact) : Prop := ∃ a, x = rational a ∧ least ≤ a ∧ a ≤ most

/-- A positive rational. -/
def Positive (x : Exact) : Prop := ∃ a, x = rational a ∧ 0 < a

instance : LE Exact := ⟨fun x y => le x y = true⟩

theorem rational_le_rational {a b : ℚ} : rational a ≤ rational b ↔ a ≤ b :=
  decide_eq_true_iff

end Exact

section Rationals

variable {κ : Type} {keys : List κ} {weight : κ → ℚ}

theorem sum_weights_pos (hweight : ∀ k ∈ keys, 0 ≤ weight k)
    (hpositive : ∃ k ∈ keys, 0 < weight k) : 0 < (keys.map weight).sum := by
  obtain ⟨k, hk, hpos⟩ := hpositive
  have hall : ∀ x ∈ keys.map weight, 0 ≤ x := by
    intro x hx
    obtain ⟨j, hj, rfl⟩ := List.mem_map.mp hx
    exact hweight j hj
  exact hpos.trans_le (List.single_le_sum hall _ (List.mem_map_of_mem hk))

variable [DecidableEq κ] (score : κ → ℚ)

/-- The smallest score of positive weight is at most the mean. -/
theorem exists_least_score (hweight : ∀ k ∈ keys, 0 ≤ weight k)
    (hpositive : ∃ k ∈ keys, 0 < weight k) :
    ∃ low ∈ keys, 0 < weight low ∧ (∀ k ∈ keys, 0 < weight k → score low ≤ score k) ∧
      score low ≤ (keys.map fun k => weight k * score k).sum / (keys.map weight).sum := by
  let heavy := (keys.filter fun k => 0 < weight k).toFinset
  have hheavy (k : κ) : k ∈ heavy ↔ k ∈ keys ∧ 0 < weight k := by
    simp [heavy]
  have hnonempty : heavy.Nonempty := by
    obtain ⟨k, hk, hpos⟩ := hpositive
    exact ⟨k, (hheavy k).mpr ⟨hk, hpos⟩⟩
  obtain ⟨low, hlow, hmin⟩ := heavy.exists_min_image score hnonempty
  have hleast : ∀ k ∈ keys, 0 < weight k → score low ≤ score k :=
    fun k hk hpos => hmin k ((hheavy k).mpr ⟨hk, hpos⟩)
  refine ⟨low, ((hheavy low).mp hlow).1, ((hheavy low).mp hlow).2, hleast, ?_⟩
  rw [le_div_iff₀ (sum_weights_pos hweight hpositive), ← List.sum_map_mul_left]
  -- term by term: a score without weight adds nothing on either side
  apply List.sum_le_sum
  intro k hk
  rcases (hweight k hk).eq_or_lt with hzero | hpos
  · rw [← hzero, mul_zero, zero_mul]
  · rw [mul_comm]
    exact mul_le_mul_of_nonneg_left (hleast k hk hpos) hpos.le

/-- The mean is at most the largest score of positive weight. -/
theorem exists_greatest_score (hweight : ∀ k ∈ keys, 0 ≤ weight k)
    (hpositive : ∃ k ∈ keys, 0 < weight k) :
    ∃ high ∈ keys, 0 < weight high ∧ (∀ k ∈ keys, 0 < weight k → score k ≤ score high) ∧
      (keys.map fun k => weight k * score k).sum / (keys.map weight).sum ≤ score high := by
  obtain ⟨high, hhigh, hpos, hmost, hmean⟩ :=
    exists_least_score (fun k => -score k) hweight hpositive
  refine ⟨high, hhigh, hpos, fun k hk hk' => neg_le_neg_iff.mp (hmost k hk hk'), ?_⟩
  have hneg : (keys.map fun k => weight k * -score k).sum =
      -(keys.map fun k => weight k * score k).sum := by
    have hterm : (fun k => weight k * -score k) = fun k => -1 * (weight k * score k) := by
      funext k
      rw [mul_neg, neg_one_mul]
    rw [hterm, List.sum_map_mul_left, neg_one_mul]
  rw [hneg, neg_div] at hmean
  exact neg_le_neg_iff.mp hmean

end Rationals

namespace Score

open Exact

/-- The weighted mean as it comes, before it is moved between bounds. -/
def mean {α : Type} [Scalar α] (parts : List (α × α)) : α :=
  Scalar.sum (parts.map fun (weight, score) => weight * score) / Scalar.sum (parts.map (·.1))

/-- A result is the weighted mean of scores between zero and one without any help: it is the
quotient as it comes, and lies between the smallest and the largest score of positive weight. -/
structure IsMean {κ : Type} (keys : List κ) (weight score : κ → Exact) (result : Exact) :
    Prop where
  scores : ∀ k ∈ keys, Within 0 1 (score k)
  unclamped : result = mean (keys.map fun k => (weight k, score k))
  within : Within 0 1 result
  least : ∃ low ∈ keys, Positive (weight low) ∧
    (∀ k ∈ keys, Positive (weight k) → score low ≤ score k) ∧ score low ≤ result
  greatest : ∃ high ∈ keys, Positive (weight high) ∧
    (∀ k ∈ keys, Positive (weight k) → score k ≤ score high) ∧ result ≤ score high

/-- Scores between zero and one with some weight have their weighted mean. -/
theorem isMean_weightedMean {κ : Type} [DecidableEq κ] {keys : List κ} {weight score : κ → Exact}
    {w : κ → ℚ} (hweight : ∀ k, weight k = rational (w k)) (hnonneg : ∀ k, 0 ≤ w k)
    (hpositive : ∃ k ∈ keys, 0 < w k) (hscore : ∀ k, Within 0 1 (score k)) :
    IsMean keys weight score (weightedMean (keys.map fun k => (weight k, score k))) := by
  choose s hs hzero hone using hscore
  obtain rfl : weight = fun k => rational (w k) := funext hweight
  obtain rfl : score = fun k => rational (s k) := funext hs
  let total := (keys.map w).sum
  let result := (keys.map fun k => w k * s k).sum / total
  have htotal : 0 < total := sum_weights_pos (fun k _ => hnonneg k) hpositive
  have hweights : Scalar.sum ((keys.map fun k => (rational (w k), rational (s k))).map (·.1)) =
      rational total := by
    rw [List.map_map]
    exact sum_map_rational keys w
  have hproducts : Scalar.sum ((keys.map fun k => (rational (w k), rational (s k))).map
      fun (weight, score) => weight * score) = rational (keys.map fun k => w k * s k).sum := by
    rw [List.map_map]
    exact sum_map_rational keys fun k => w k * s k
  have hmean : mean (keys.map fun k => (rational (w k), rational (s k))) = rational result := by
    rw [mean, hweights, hproducts, div_rational _ htotal.ne']
  obtain ⟨low, hlow, hwlow, hleast, hresult⟩ :=
    exists_least_score s (fun k _ => hnonneg k) hpositive
  obtain ⟨high, hhigh, hwhigh, hmost, hresult'⟩ :=
    exists_greatest_score s (fun k _ => hnonneg k) hpositive
  -- the extreme scores bound the mean, so the clamp has nothing to do
  have hlower : 0 ≤ result := (hzero low).trans hresult
  have hupper : result ≤ 1 := hresult'.trans (hone high)
  have hclamped : weightedMean (keys.map fun k => (rational (w k), rational (s k))) =
      rational result := by
    have hle : ¬ total ≤ 0 := not_le.mpr htotal
    rw [weightedMean, hweights, hproducts, div_rational _ htotal.ne', ofNat_eq, le_rational,
      Nat.cast_zero, decide_eq_false hle, decimal_zero, decimal_one]
    exact clamp_rational hlower hupper
  have hpos {k : κ} : Positive (rational (w k)) → 0 < w k := by
    rintro ⟨a, ha, hpos⟩
    cases ha
    exact hpos
  rw [hclamped]
  exact {
    scores := fun k _ => ⟨s k, rfl, hzero k, hone k⟩
    unclamped := hmean.symm
    within := ⟨result, rfl, hlower, hupper⟩
    least := ⟨low, hlow, ⟨_, rfl, hwlow⟩,
      fun k hk hk' => rational_le_rational.mpr (hleast k hk (hpos hk')),
      rational_le_rational.mpr hresult⟩
    greatest := ⟨high, hhigh, ⟨_, rfl, hwhigh⟩,
      fun k hk hk' => rational_le_rational.mpr (hmost k hk (hpos hk')),
      rational_le_rational.mpr hresult'⟩ }

/-- One less a share is between zero and one once it is not below zero. -/
theorem within_shareLeft (flagged : ℕ) {total : ℕ} (h : 0 < total) :
    Within 0 1 (shareLeft flagged total) := by
  have htotal : (total : ℚ) ≠ 0 := Nat.cast_ne_zero.mpr h.ne'
  have hshare : 0 ≤ (flagged / total : ℚ) := by positivity
  rw [shareLeft, ofNat_eq, ofNat_eq, ofNat_eq, div_rational _ htotal, sub_rational, decimal_zero,
    atLeast_rational]
  refine ⟨_, rfl, le_max_left .., max_le zero_le_one ?_⟩
  rw [Nat.cast_one]
  exact sub_le_self 1 hshare

theorem within_shareLeftOf (flagged count : ℕ) : Within 0 1 (shareLeftOf flagged count) := by
  rw [shareLeftOf]
  split
  next => exact ⟨1, decimal_one, zero_le_one, le_rfl⟩
  next h => exact within_shareLeft flagged (Nat.pos_of_ne_zero h)

end Score

end TagAudit
