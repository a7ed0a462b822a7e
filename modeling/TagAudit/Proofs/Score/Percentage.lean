import TagAudit.Proofs.Score.WeightedMean
import TagAudit.Score.Aggregate

/-!
# Percentages

In exact arithmetic the value of a dimension is a percentage and counts as it is, and what a
dimension adds to the score is a part of it. The share of clean things does not grow with one more
thing that is not clean.
-/

namespace TagAudit.Score

open Exact

theorem cleanliness_zero (clean : ℕ) : (cleanliness (0 : ℕ) clean : Exact) = rational 100 := by
  rw [cleanliness, if_pos (by decide), decimal_hundred]

theorem cleanliness_eq {total : ℕ} (h : 0 < total) (clean : ℕ) :
    (cleanliness total clean : Exact) = rational (clean / total * 100) := by
  have hpositive : ¬ (total : ℤ) ≤ 0 := not_le.mpr (Int.natCast_pos.mpr h)
  have hne : ((total : ℤ) : ℚ) ≠ 0 := Int.cast_ne_zero.mpr (Int.natCast_pos.mpr h).ne'
  rw [cleanliness, if_neg hpositive, ofInt_eq, ofInt_eq, ofNat_eq, div_rational _ hne,
    mul_rational, Int.cast_natCast, Int.cast_natCast, Nat.cast_ofNat]

theorem within_cleanliness {total clean : ℕ} (h : clean ≤ total) :
    Within 0 100 (cleanliness total clean) := by
  rcases Nat.eq_zero_or_pos total with rfl | hpos
  · exact ⟨100, cleanliness_zero clean, by norm_num, le_rfl⟩
  · have htotal : (0 : ℚ) < total := Nat.cast_pos.mpr hpos
    have hone : (clean / total : ℚ) ≤ 1 := (div_le_one htotal).mpr (Nat.cast_le.mpr h)
    refine ⟨_, cleanliness_eq hpos clean, by positivity, ?_⟩
    exact mul_le_of_le_one_left (by norm_num) hone

theorem within_percentage {score : Exact} (h : Within 0 1 score) :
    Within 0 100 (percentage score) := by
  obtain ⟨a, rfl, hzero, hone⟩ := h
  rw [percentage, ofNat_eq, mul_rational, Nat.cast_ofNat]
  exact ⟨_, rfl, by positivity, mul_le_of_le_one_left (by norm_num) hone⟩

/-- A percentage counts as it is. -/
theorem bounded_eq {value : Exact} (h : Within 0 100 value) : bounded value = value := by
  obtain ⟨a, rfl, hzero, hhundred⟩ := h
  rw [bounded, decimal_zero, decimal_hundred, clamp_rational hzero hhundred]

/-- A weight among others that are not negative is no more than the whole of them. -/
theorem within_share {sum weight : ℚ} (hnonneg : 0 ≤ weight) (hle : weight ≤ sum) :
    Within 0 1 (share (rational sum) (rational weight)) := by
  rw [share, ofNat_eq, lt_rational, Nat.cast_zero]
  by_cases hpos : 0 < sum
  · rw [decide_eq_true hpos, if_pos rfl, div_rational _ hpos.ne']
    exact ⟨_, rfl, div_nonneg hnonneg hpos.le, (div_le_one hpos).mpr hle⟩
  · rw [decide_eq_false hpos, if_neg Bool.false_ne_true, decimal_zero]
    exact ⟨0, rfl, le_rfl, zero_le_one⟩

/-- A dimension adds a part of its value to the score. -/
theorem within_contribution? {weights : Dimension → Exact} {values : Dimension → Option Exact}
    {w : Dimension → ℚ} (hweights : ∀ dimension, weights dimension = rational (w dimension))
    (hnonneg : ∀ dimension, 0 ≤ w dimension)
    (hvalues : ∀ dimension value, values dimension = some value → Within 0 100 value)
    {dimension : Dimension} {value : Exact}
    (h : contribution? weights values dimension = some value) : Within 0 100 value := by
  obtain rfl : weights = fun k => rational (w k) := funext hweights
  obtain ⟨own, hown, rfl⟩ := Option.map_eq_some_iff.mp h
  let available := Dimension.all.filter fun k => (values k).isSome
  let sum := (available.map w).sum
  have hsum : availableWeight (fun k => rational (w k)) values = rational sum :=
    sum_map_rational available w
  have hle : w dimension ≤ sum := by
    have hmem : dimension ∈ available :=
      List.mem_filter.mpr ⟨dimension.mem_all, by rw [hown]; rfl⟩
    refine List.single_le_sum (fun x hx => ?_) _ (List.mem_map_of_mem hmem)
    obtain ⟨k, -, rfl⟩ := List.mem_map.mp hx
    exact hnonneg k
  have hwithin := hvalues dimension own hown
  rw [bounded_eq hwithin, hsum]
  obtain ⟨part, hpart, hzero, hone⟩ := within_share (hnonneg dimension) hle
  obtain ⟨a, rfl, ha, hhundred⟩ := hwithin
  rw [hpart, mul_rational]
  exact ⟨_, rfl, mul_nonneg ha hzero, (mul_le_of_le_one_right ha hone).trans hhundred⟩

/-- The share of clean things does not grow with one more thing that is not clean. -/
theorem cleanliness_succ_le {total clean clean' : ℕ} (hclean : clean ≤ total) (h : clean' ≤ clean) :
    (cleanliness (total + 1 : ℕ) clean' : Exact) ≤ cleanliness total clean := by
  rcases Nat.eq_zero_or_pos total with rfl | hpos
  · have hfew : clean' ≤ 0 + 1 := by omega
    obtain ⟨a, ha, -, hhundred⟩ := within_cleanliness hfew
    rw [ha, cleanliness_zero]
    exact rational_le_rational.mpr hhundred
  · rw [cleanliness_eq (Nat.succ_pos total), cleanliness_eq hpos]
    refine rational_le_rational.mpr (mul_le_mul_of_nonneg_right ?_ (by norm_num))
    have hcast : (clean' : ℚ) ≤ clean := Nat.cast_le.mpr h
    have htotal : (total : ℚ) ≤ (total + 1 : ℕ) := Nat.cast_le.mpr (Nat.le_succ total)
    exact div_le_div₀ (Nat.cast_nonneg clean) hcast (Nat.cast_pos.mpr hpos) htotal

end TagAudit.Score
