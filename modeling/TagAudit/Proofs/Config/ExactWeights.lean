import TagAudit.Proofs.Config.Soundness
import TagAudit.Proofs.Score.Exact

/-!
# Weights in exact arithmetic

The weights of an accepted configuration, where they are finite, are rationals of which none is
negative, and in every table that a score is computed with some weight is positive. The penalty of
an accepted configuration is a rational between zero and one.
-/

namespace TagAudit.Config

/-- Weights with exact values, none of them negative and some of them positive. -/
structure ExactWeights {κ : Type} (keys : List κ) (weights : κ → Number) (w : κ → ℚ) : Prop where
  value : ∀ k, (weights k).value? = some (w k)
  nonneg : ∀ k, 0 ≤ w k
  positive : ∃ k ∈ keys, 0 < w k

/-- A weight stands for its value. -/
theorem ExactWeights.ofNumber_eq {κ : Type} {keys : List κ} {weights : κ → Number} {w : κ → ℚ}
    (h : ExactWeights keys weights w) (k : κ) :
    (Scalar.ofNumber (weights k) : Exact) = .rational (w k) :=
  Exact.ofNumber_eq (h.value k)

section Accepted

variable {overrides : Json} {config : Config} (h : Read overrides config)
  (hfinite : ∀ x ∈ config.weights, x.value?.isSome = true)

include h hfinite

/-- A finite weight that was accepted is a rational that is not negative. -/
theorem exists_value?_of_mem_weights {x : Number} (hx : x ∈ config.weights) :
    ∃ a, x.value? = some a ∧ 0 ≤ a := by
  have hdefined : .float .nan ∉ config.weights := by
    intro hnan
    have hsome := hfinite _ hnan
    cases hsome
  obtain ⟨a, ha⟩ := Option.isSome_iff_exists.mp (hfinite x hx)
  have hle := (Number.le_iff (Number.value?_int 0) ha).mp (le_of_mem_weights h hdefined hx)
  rw [Int.cast_zero] at hle
  exact ⟨a, ha, hle⟩

private theorem exists_exactWeights {κ : Type} {keys : List κ} {weights : κ → Number}
    (hmem : ∀ k, weights k ∈ config.weights) (hweight : ∃ k ∈ keys, (weights k).isZero = false) :
    ∃ w, ExactWeights keys weights w := by
  choose w hvalue hnonneg using fun k => exists_value?_of_mem_weights h hfinite (hmem k)
  obtain ⟨k, hk, hzero⟩ := hweight
  have hne : w k ≠ 0 := by
    intro heq
    rw [(Number.isZero_iff_of_value? (hvalue k)).mpr heq] at hzero
    cases hzero
  exact ⟨w, hvalue, hnonneg, k, hk, (hnonneg k).lt_of_ne' hne⟩

theorem exists_exact_scoreWeights : ∃ w, ExactWeights Dimension.all config.scoreWeights w :=
  exists_exactWeights h hfinite (fun k => mem_weights_iff.mpr (.inl ⟨k, rfl⟩))
    (exists_isZero_eq_false h.scoreWeights)

theorem exists_exact_triggerWeights :
    ∃ w, ExactWeights TriggerAspect.all config.triggerWeights w :=
  exists_exactWeights h hfinite (fun k => mem_weights_iff.mpr (.inr (.inl ⟨k, rfl⟩)))
    (exists_isZero_eq_false h.triggerWeights)

theorem exists_exact_variableWeights :
    ∃ w, ExactWeights VariableAspect.all config.variableWeights w := by
  obtain ⟨k, -, hzero⟩ := exists_isZero_eq_false h.variableWeights
  exact exists_exactWeights h hfinite
    (fun k => mem_weights_iff.mpr (.inr (.inr (.inl ⟨k, rfl⟩)))) ⟨k, k.mem_all, hzero⟩

theorem exists_value?_htmlSeverityWeights (severity : Severity) :
    ∃ a, (config.htmlSeverityWeights severity).value? = some a ∧ 0 ≤ a :=
  exists_value?_of_mem_weights h hfinite
    (mem_weights_iff.mpr (.inr (.inr (.inr ⟨severity, rfl⟩))))

end Accepted

/-- The penalty that was accepted is a rational between zero and one. -/
theorem exists_value?_penalty {overrides : Json} {config : Config} (h : Read overrides config) :
    ∃ n a, config.spaPenaltyScore.number? = some n ∧ n.value? = some a ∧ 0 ≤ a ∧ a ≤ 1 := by
  obtain ⟨heq, n, hn, hlow, hhigh⟩ := readPenalty_eq_ok_iff.mp h.spaPenaltyScore
  obtain ⟨a, ha, hzero, hone⟩ := Number.exists_value?_of_between (Number.value?_int 0)
    (Number.value?_int 1) hlow hhigh
  rw [heq] at hn
  rw [Int.cast_zero] at hzero
  rw [Int.cast_one] at hone
  exact ⟨n, a, hn, ha, hzero, hone⟩

end TagAudit.Config
