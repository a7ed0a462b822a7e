import Mathlib.Algebra.BigOperators.Group.List.Basic
import Mathlib.Algebra.Order.BigOperators.Group.List
import Mathlib.Tactic.GCongr
import TagAudit.Proofs.Config.ExactWeights
import TagAudit.Proofs.Score.WeightedMean
import TagAudit.Score.Aggregate

/-!
# The score as a renormalized mean

In exact arithmetic and before it is rounded the score is the mean of the values that the dimensions
have, each moved between zero and a hundred, with the weights of just those dimensions. A dimension
without a value does not count as zero: leaving it out is the same as giving it no weight.
-/

namespace TagAudit.Score

open Exact

section Means

variable (w : Dimension → ℚ) (values : Dimension → Option ℚ)

/-- Some values in exact arithmetic. -/
def exactly (dimension : Dimension) : Option Exact := (values dimension).map rational

/-- The dimensions that have a value. -/
def present : List Dimension := Dimension.all.filter fun dimension => (values dimension).isSome

/-- The value of a dimension moved between zero and a hundred. -/
def counted (dimension : Dimension) : ℚ := min 100 (max 0 ((values dimension).getD 0))

/-- The weight of all dimensions that have a value. -/
def presentWeight : ℚ := ((present values).map w).sum

/-- The values that count, each as often as its dimension weighs. -/
def weightedSum : ℚ := ((present values).map fun k => w k * counted values k).sum

/-- The mean of the values that count, and zero where they have no weight. -/
def renormalizedMean : ℚ :=
  if 0 < presentWeight w values then weightedSum w values / presentWeight w values else 0

theorem availableWeight_exactly : availableWeight (fun k => rational (w k)) (exactly values) =
    rational (presentWeight w values) := by
  have hpresent : Dimension.all.filter (fun k => (exactly values k).isSome) = present values := by
    simp only [exactly, Option.isSome_map, present]
  rw [availableWeight, hpresent, sum_map_rational, presentWeight]

/-- A dimension with a value adds to the score the part of the value that its weight has in the
weights of all dimensions with a value. -/
theorem contribution?_exactly (dimension : Dimension) :
    contribution? (fun k => rational (w k)) (exactly values) dimension =
      if (values dimension).isSome then
        some (rational (if 0 < presentWeight w values then
          w dimension * counted values dimension / presentWeight w values else 0))
      else none := by
  rw [contribution?, availableWeight_exactly, exactly]
  cases hvalue : values dimension with
  | none => rfl
  | some a =>
    have hcounted : counted values dimension = min 100 (max 0 a) := by
      rw [counted, hvalue, Option.getD_some]
    rw [Option.map_some, Option.map_some, Option.isSome_some, if_pos rfl, hcounted, bounded,
      decimal_zero, decimal_hundred, Scalar.clamp, atLeast_rational, atMost_rational, share,
      ofNat_eq, lt_rational, Nat.cast_zero]
    by_cases hpos : 0 < presentWeight w values
    · rw [decide_eq_true hpos, if_pos rfl, if_pos hpos, div_rational _ hpos.ne', mul_rational]
      congr 2
      ring
    · rw [decide_eq_false hpos, if_neg Bool.false_ne_true, if_neg hpos, decimal_zero, mul_rational,
        mul_zero]

/-- What the dimensions add to the score makes up the mean. -/
theorem sum_contributions : Scalar.sum
    (Dimension.all.filterMap (contribution? (fun k => rational (w k)) (exactly values))) =
      rational (renormalizedMean w values) := by
  have hmap : Dimension.all.filterMap (contribution? (fun k => rational (w k)) (exactly values)) =
      (present values).map fun k => rational (if 0 < presentWeight w values then
        w k * counted values k / presentWeight w values else 0) := by
    rw [present, ← List.filterMap_eq_map, List.filterMap_filter]
    exact List.filterMap_congr fun k _ => contribution?_exactly w values k
  rw [hmap, sum_map_rational, renormalizedMean]
  by_cases hpos : 0 < presentWeight w values
  · simp only [if_pos hpos, div_eq_mul_inv]
    rw [List.sum_map_mul_right, weightedSum]
  · simp [if_neg hpos]

/-- The score is the mean. -/
theorem total_exactly : total (fun k => rational (w k)) (exactly values) =
    rational (renormalizedMean w values) := by
  rw [total, availableWeight_exactly, ofNat_eq, le_rational, Nat.cast_zero, sum_contributions,
    decimal_zero, renormalizedMean]
  by_cases hpos : 0 < presentWeight w values
  · simp [hpos]
  · simp [hpos, not_lt.mp hpos]

end Means

section Changes

variable {w : Dimension → ℚ} {values : Dimension → Option ℚ} {dimension : Dimension}

theorem present_update_some {a b : ℚ} (h : values dimension = some a) :
    present (Function.update values dimension (some b)) = present values := by
  refine List.filter_congr fun k _ => ?_
  by_cases hk : k = dimension
  · rw [hk, Function.update_self, h]
    rfl
  · rw [Function.update_of_ne hk]

theorem present_update_none : present (Function.update values dimension none) =
    (present values).filter (· ≠ dimension) := by
  rw [present, present, List.filter_filter]
  refine List.filter_congr fun k _ => ?_
  by_cases hk : k = dimension
  · simp [hk]
  · simp [hk]

theorem counted_update_of_ne {k : Dimension} (h : k ≠ dimension) (value : Option ℚ) :
    counted (Function.update values dimension value) k = counted values k := by
  rw [counted, Function.update_of_ne h, counted]

/-- A greater value counts no less. -/
theorem counted_le_update {a b : ℚ} (h : values dimension = some a) (hle : a ≤ b) (k : Dimension) :
    counted values k ≤ counted (Function.update values dimension (some b)) k := by
  by_cases hk : k = dimension
  · rw [hk, counted, counted, h, Function.update_self, Option.getD_some, Option.getD_some]
    gcongr
  · rw [counted_update_of_ne hk]

/-- The mean does not fall when a value is raised. -/
theorem renormalizedMean_le_update (hnonneg : ∀ k, 0 ≤ w k) {a b : ℚ}
    (h : values dimension = some a) (hle : a ≤ b) :
    renormalizedMean w values ≤
      renormalizedMean w (Function.update values dimension (some b)) := by
  have hpresent := present_update_some (b := b) h
  have hweight : presentWeight w (Function.update values dimension (some b)) =
      presentWeight w values := by
    rw [presentWeight, hpresent, presentWeight]
  have hsum : weightedSum w values ≤
      weightedSum w (Function.update values dimension (some b)) := by
    rw [weightedSum, weightedSum, hpresent]
    refine List.sum_le_sum fun k _ => ?_
    exact mul_le_mul_of_nonneg_left (counted_le_update h hle k) (hnonneg k)
  rw [renormalizedMean, renormalizedMean, hweight]
  split
  next hpos => exact div_le_div_of_nonneg_right hsum hpos.le
  next => exact le_rfl

/-- Only the ratios of the weights matter to the mean. -/
theorem renormalizedMean_mul {c : ℚ} (hc : 0 < c) (w : Dimension → ℚ)
    (values : Dimension → Option ℚ) :
    renormalizedMean (fun k => c * w k) values = renormalizedMean w values := by
  have hweight : presentWeight (fun k => c * w k) values = c * presentWeight w values := by
    rw [presentWeight, List.sum_map_mul_left, presentWeight]
  have hsum : weightedSum (fun k => c * w k) values = c * weightedSum w values := by
    simp only [weightedSum, mul_assoc]
    rw [List.sum_map_mul_left]
  rw [renormalizedMean, renormalizedMean, hweight, hsum, mul_div_mul_left _ _ hc.ne']
  simp only [mul_pos_iff_of_pos_left hc]

/-- A sum to which one key adds nothing is the sum over the other keys. -/
theorem sum_map_update_zero (keys : List Dimension) (f : Dimension → ℚ) :
    (keys.map fun k => Function.update w dimension 0 k * f k).sum =
      ((keys.filter (· ≠ dimension)).map fun k => w k * f k).sum := by
  induction keys with
  | nil => rfl
  | cons k keys ih =>
    by_cases hk : k = dimension
    · simp [hk, ih]
    · simp [hk, ih]

/-- To leave a dimension out is to give it no weight. -/
theorem renormalizedMean_update_none : renormalizedMean w (Function.update values dimension none) =
    renormalizedMean (Function.update w dimension 0) values := by
  have hweight : presentWeight w (Function.update values dimension none) =
      presentWeight (Function.update w dimension 0) values := by
    have hsum : ((present values).map fun k => Function.update w dimension 0 k * 1).sum =
        (((present values).filter (· ≠ dimension)).map fun k => w k * 1).sum :=
      sum_map_update_zero ..
    simp only [mul_one] at hsum
    rw [presentWeight, presentWeight, present_update_none, hsum]
  have hsum : weightedSum w (Function.update values dimension none) =
      weightedSum (Function.update w dimension 0) values := by
    rw [weightedSum, weightedSum, present_update_none, sum_map_update_zero]
    refine congrArg List.sum (List.map_congr_left fun k hk => ?_)
    rw [counted_update_of_ne (of_decide_eq_true (List.mem_filter.mp hk).2)]
  rw [renormalizedMean, renormalizedMean, hweight, hsum]

/-- Where there is weight, some dimension has it. -/
theorem exists_weight_pos (h : 0 < presentWeight w values) : ∃ k ∈ present values, 0 < w k := by
  have hlt : ((present values).map fun _ => (0 : ℚ)).sum < ((present values).map w).sum := by
    rw [List.sum_map_zero]
    exact h
  exact List.exists_lt_of_sum_lt (fun _ => 0) w hlt

end Changes

/-- The score under some weights is a renormalized mean: the mean of the values that count, between
the smallest and the largest of those with weight, made up of what the dimensions add to it; a
raised value does not lower it, a common factor of the weights does not change it, and a dimension
is left out as if it had no weight. -/
structure IsRenormalizedMean (weights : Dimension → Exact) (w : Dimension → ℚ)
    (values : Dimension → Option ℚ) : Prop where
  mean : total weights (exactly values) = rational (renormalizedMean w values)
  contributions : Scalar.sum (Dimension.all.filterMap (contribution? weights (exactly values))) =
    total weights (exactly values)
  least : 0 < presentWeight w values → ∃ low ∈ present values, 0 < w low ∧
    (∀ k ∈ present values, 0 < w k → counted values low ≤ counted values k) ∧
    rational (counted values low) ≤ total weights (exactly values)
  greatest : 0 < presentWeight w values → ∃ high ∈ present values, 0 < w high ∧
    (∀ k ∈ present values, 0 < w k → counted values k ≤ counted values high) ∧
    total weights (exactly values) ≤ rational (counted values high)
  raised : ∀ dimension a b, values dimension = some a → a ≤ b →
    total weights (exactly values) ≤
      total weights (exactly (Function.update values dimension (some b)))
  scaled : ∀ c : ℚ, 0 < c → total (fun k => rational c * weights k) (exactly values) =
    total weights (exactly values)
  omitted : ∀ dimension, total weights (exactly (Function.update values dimension none)) =
    total (Function.update weights dimension (rational 0)) (exactly values)

/-- With weights that are not negative the score is a renormalized mean. -/
theorem isRenormalizedMean {w : Dimension → ℚ} (hnonneg : ∀ k, 0 ≤ w k)
    (values : Dimension → Option ℚ) : IsRenormalizedMean (fun k => rational (w k)) w values where
  mean := total_exactly w values
  contributions := (sum_contributions w values).trans (total_exactly w values).symm
  least h := by
    obtain ⟨low, hlow, hw, hleast, hle⟩ :=
      exists_least_score (counted values) (fun k _ => hnonneg k) (exists_weight_pos h)
    refine ⟨low, hlow, hw, hleast, ?_⟩
    rw [total_exactly, renormalizedMean, if_pos h]
    exact rational_le_rational.mpr hle
  greatest h := by
    obtain ⟨high, hhigh, hw, hmost, hle⟩ :=
      exists_greatest_score (counted values) (fun k _ => hnonneg k) (exists_weight_pos h)
    refine ⟨high, hhigh, hw, hmost, ?_⟩
    rw [total_exactly, renormalizedMean, if_pos h]
    exact rational_le_rational.mpr hle
  raised dimension a b h hle := by
    rw [total_exactly, total_exactly]
    exact rational_le_rational.mpr (renormalizedMean_le_update hnonneg h hle)
  scaled c hc := by
    simp only [mul_rational]
    rw [total_exactly, total_exactly, renormalizedMean_mul hc]
  omitted dimension := by
    have hweights : Function.update (fun k => rational (w k)) dimension (rational 0) =
        fun k => rational (Function.update w dimension 0 k) := by
      funext k
      exact (Function.apply_update (fun _ => rational) w dimension 0 k).symm
    rw [hweights, total_exactly, total_exactly, renormalizedMean_update_none]

/-- Under an accepted configuration with finite weights the score is a renormalized mean, whatever
the values of the dimensions are. -/
theorem renormalizes_of_accepted {overrides : Json} {config : Config}
    (haccepted : Config.ofJson overrides = .ok config)
    (hfinite : ∀ x ∈ config.weights, x.value?.isSome = true) :
    ∃ w : Dimension → ℚ, (∀ k, (config.scoreWeights k).value? = some (w k)) ∧
      ∀ values, IsRenormalizedMean (fun k => Scalar.ofNumber (config.scoreWeights k)) w values := by
  have hread := Config.ofJson_eq_ok_iff.mp haccepted
  obtain ⟨w, hw⟩ := Config.exists_exact_scoreWeights hread hfinite
  have hweights : (fun k => (Scalar.ofNumber (config.scoreWeights k) : Exact)) =
      fun k => rational (w k) := funext hw.ofNumber_eq
  rw [hweights]
  exact ⟨w, hw.value, isRenormalizedMean hw.nonneg⟩

/-- Overrides by which tags have no weight and consent weighs more than all the others together. -/
def heavyConsent : Json := .object [
  ("score_weights", .object [("tags", .nat 0), ("consent", .nat 2)])]

/-- The overrides are accepted with finite weights, and the score is a renormalized mean. -/
theorem renormalizes_heavyConsent : ∃ config, Config.ofJson heavyConsent = .ok config ∧
    (∀ x ∈ config.weights, x.value?.isSome = true) ∧
    ∃ w : Dimension → ℚ, (∀ k, (config.scoreWeights k).value? = some (w k)) ∧
      ∀ values, IsRenormalizedMean (fun k => Scalar.ofNumber (config.scoreWeights k)) w values := by
  have hread : (Config.ofJson heavyConsent).map
      (fun config => config.weights.all (·.value?.isSome)) = .ok true := by
    decide +kernel
  obtain ⟨config, haccepted, hweights⟩ := Failure.map_eq_ok_iff.mp hread
  have hfinite : ∀ x ∈ config.weights, x.value?.isSome = true := List.all_eq_true.mp hweights
  exact ⟨config, haccepted, hfinite, renormalizes_of_accepted haccepted hfinite⟩

end TagAudit.Score
