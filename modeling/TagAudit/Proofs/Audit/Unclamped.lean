import TagAudit.Audit.Result
import TagAudit.Proofs.Audit.Outcomes
import TagAudit.Proofs.Config.ExactWeights
import TagAudit.Proofs.Score.Percentage
import TagAudit.Proofs.Variables.Counts

/-!
# Scores that need no bounds

The weighted means and the values of the dimensions are moved between bounds at the end, which
would hide a miscount. In exact arithmetic the bounds do nothing: what is counted never exceeds what
it is counted among, so every share lies between zero and one, no divisor is zero, and a weighted
mean with accepted weights stays between its parts.
-/

namespace TagAudit

open Exact

/-- The states of the verdicts are counted without remainder. -/
theorem ConsentCoverage.count_add (coverage : ConsentCoverage) :
    coverage.count .ok + coverage.count .missing + coverage.count .notConfigured =
      coverage.checked := by
  obtain ⟨verdicts⟩ := coverage
  simp only [count, checked]
  induction verdicts with
  | nil => rfl
  | cons verdict rest ih =>
    simp only [List.countP_cons, List.length_cons]
    cases verdict.state <;> simp <;> omega

theorem ConsentCoverage.within_score (coverage : ConsentCoverage) :
    Within 0 1 coverage.score := by
  rw [score]
  split
  next => exact ⟨1, decimal_one, zero_le_one, le_rfl⟩
  next hchecked =>
    have hpos : (0 : ℚ) < coverage.checked := Nat.cast_pos.mpr (Nat.pos_of_ne_zero hchecked)
    have hle : (coverage.count .ok : ℚ) ≤ coverage.checked := by
      have hadd := coverage.count_add
      exact Nat.cast_le.mpr (by omega)
    rw [ofNat_eq, ofNat_eq, div_rational _ hpos.ne']
    exact ⟨_, rfl, by positivity, (div_le_one hpos).mpr hle⟩

/-- The clean tags are some of the tags. -/
theorem TagRules.clean_le_total (config : Config) (container : Container) :
    (ofContainer config container).clean ≤ (ofContainer config container).total :=
  List.countP_le_length

/-- The quality of triggers counts no more than there are, and its score is a mean. -/
structure TriggerQuality.Unclamped (quality : TriggerQuality) (config : Config)
    (container : Container) : Prop where
  total : quality.total = container.triggers.length
  onAllPages : quality.onAllPages ≤ quality.total
  badlyTimed : quality.badlyTimed ≤ quality.total
  score : Score.IsMean TriggerAspect.all
    (fun aspect => Scalar.ofNumber (config.triggerWeights aspect)) (quality.aspectScore config)
    (quality.score config)

/-- The quality of variables counts faults among the variables of their kinds and every variable
once by its kind, and its score is a mean. -/
structure VariableQuality.Unclamped (quality : VariableQuality) (config : Config)
    (container : Container) : Prop where
  total : quality.total = container.userVariables.length
  faults : ∀ fault, quality.faultCount fault ≤ quality.kindCount fault.kind
  kinds : (((quality.userVariables.map (·.kind)).eraseDups).map quality.kindCount).sum =
    quality.total
  score : Score.IsMean VariableAspect.all
    (fun aspect => Scalar.ofNumber (config.variableWeights aspect)) quality.aspectScore
    (quality.score config)

theorem VariableQuality.within_aspectScore (quality : VariableQuality)
    (aspect : VariableAspect) : Within 0 1 (quality.aspectScore aspect) := by
  cases aspect <;> exact Score.within_shareLeftOf ..

section Accepted

variable {overrides : Json} {config : Config} (hread : Config.Read overrides config)

include hread

/-- The accepted penalty is a score like the others. -/
theorem TriggerQuality.within_aspectScore (quality : TriggerQuality) (aspect : TriggerAspect) :
    Within 0 1 (quality.aspectScore config aspect) := by
  have hpos : 0 < max quality.total 1 := Nat.lt_of_lt_of_le Nat.one_pos (Nat.le_max_right ..)
  cases aspect with
  | specificity => exact Score.within_shareLeft _ hpos
  | blocking => exact Score.within_shareLeft _ hpos
  | timing => exact Score.within_shareLeft _ hpos
  | hygiene => exact Score.within_shareLeft _ hpos
  | spa =>
    rw [aspectScore]
    split
    next => exact ⟨1, decimal_one, zero_le_one, le_rfl⟩
    next =>
      obtain ⟨n, a, hn, ha, hzero, hone⟩ := Config.exists_value?_penalty hread
      rw [hn, Option.getD_some]
      exact ⟨a, ofNumber_eq ha, hzero, hone⟩

variable (hfinite : ∀ x ∈ config.weights, x.value?.isSome = true)

include hfinite

theorem TriggerQuality.unclamped_ofContainer {container : Container} {referenced : List String}
    {quality : TriggerQuality} (h : ofContainer container referenced = .ok quality) :
    quality.Unclamped config container := by
  obtain ⟨w, hw⟩ := Config.exists_exact_triggerWeights hread hfinite
  have hscore := within_aspectScore hread quality
  obtain ⟨blockings, judged, hjudged, rfl⟩ := exists_of_ofContainer_eq_ok h
  have hlength : judged.length = container.triggers.length := by
    rw [← List.length_map (·.1), Failure.map_eq_of_mapM hjudged fun _ _ => Trigger.fst_eq_of_judge]
  exact {
    total := rfl
    onAllPages := List.countP_le_length.trans_eq hlength
    badlyTimed := List.countP_le_length
    score := Score.isMean_weightedMean hw.ofNumber_eq hw.nonneg hw.positive hscore }

theorem VariableQuality.unclamped_ofContainer {container : Container}
    {referencedNames : List String} {quality : VariableQuality}
    (h : ofContainer config container referencedNames = .ok quality) :
    quality.Unclamped config container := by
  obtain ⟨w, hw⟩ := Config.exists_exact_variableWeights hread hfinite
  exact {
    total := congrArg List.length (userVariables_eq h)
    faults := faultCount_le_kindCount h
    kinds := sum_kindCount quality
    score := Score.isMean_weightedMean hw.ofNumber_eq hw.nonneg hw.positive
      quality.within_aspectScore }

/-- The penalty for findings takes the score of scripts nowhere above one. -/
theorem ScriptSecurity.within_score (security : ScriptSecurity) :
    Within 0 1 (security.score config) := by
  choose w hvalue hnonneg using Config.exists_value?_htmlSeverityWeights hread hfinite
  let penalty := (Severity.ascending.map fun severity => security.count severity * w severity).sum
  have hpenalty : (security.penalty config : Exact) = rational penalty := by
    rw [ScriptSecurity.penalty, ← sum_map_rational]
    simp only [ofNat_eq, ofNumber_eq (hvalue _), mul_rational]
  have hnonneg : 0 ≤ penalty := by
    refine List.sum_nonneg fun x hx => ?_
    obtain ⟨severity, -, rfl⟩ := List.mem_map.mp hx
    exact mul_nonneg (Nat.cast_nonneg _) (hnonneg severity)
  have hpos : (0 : ℚ) < (max security.checked 1 : ℕ) :=
    Nat.cast_pos.mpr (Nat.lt_of_lt_of_le Nat.one_pos (Nat.le_max_right ..))
  rw [ScriptSecurity.score, hpenalty, ofNat_eq, ofNat_eq, div_rational _ hpos.ne', sub_rational,
    decimal_zero, atLeast_rational]
  refine ⟨_, rfl, le_max_left .., max_le zero_le_one ?_⟩
  rw [Nat.cast_one]
  exact sub_le_self 1 (div_nonneg hnonneg hpos.le)

end Accepted

namespace Audit

/-- In exact arithmetic nothing that an audit of a container counts or scores needs a bound. -/
structure Unclamped (config : Config) (container : Container) : Prop where
  tags : (TagRules.ofContainer config container).clean ≤
    (TagRules.ofContainer config container).total
  consent : ∀ coverage, ConsentCoverage.ofContainer container = .ok coverage →
    coverage.count .ok + coverage.count .missing + coverage.count .notConfigured =
        coverage.checked ∧
      Within 0 1 coverage.score
  triggerQuality : ∀ referenced quality,
    TriggerQuality.ofContainer container referenced = .ok quality →
    quality.Unclamped config container
  variableQuality : ∀ referencedNames quality,
    VariableQuality.ofContainer config container referencedNames = .ok quality →
    quality.Unclamped config container
  security : ∀ security, ScriptSecurity.ofContainer config container = .ok security →
    Within 0 1 (security.score config)
  dimensions : ∀ prevented log warnings dimension value,
    (ofContainer config prevented container log warnings).value? dimension = some value →
    Within 0 100 value ∧ Score.bounded value = value
  contributions : ∀ prevented log warnings dimension value,
    Score.contribution? (fun k => Scalar.ofNumber (config.scoreWeights k))
      (ofContainer config prevented container log warnings).value? dimension = some value →
    Within 0 100 value

section Values

variable {config : Config} {prevented : Helper → Bool} {container : Container}
  {log : List LogRecord} {warnings : List String}

private theorem eq_of_tagRules_ofContainer {rules : TagRules}
    (h : (ofContainer config prevented container log warnings).tagRules.result = some rules) :
    TagRules.ofContainer config container = rules := by
  simp only [ofContainer, runTagRules, Outcome.result_of] at h
  split at h
  · cases h
  · exact Option.some.inj h

private theorem exists_of_triggerQuality {report : TriggerQuality × StatusMessage}
    (h : (ofContainer config prevented container log warnings).triggerQuality.result =
      some report) :
    ∃ referenced, TriggerQuality.ofContainer container referenced = .ok report.1 := by
  simp only [ofContainer, runTriggers, Outcome.result_of] at h
  split at h
  · cases h
  · obtain ⟨quality, hquality, hreport⟩ :=
      Failure.bind_eq_ok_iff.mp (Failure.toOption_eq_some_iff.mp h)
    obtain ⟨message, -, rfl⟩ := Failure.map_eq_ok_iff.mp hreport
    exact ⟨_, hquality⟩

private theorem exists_of_variableQuality {report : VariableQuality × StatusMessage}
    (h : (ofContainer config prevented container log warnings).variableQuality.result =
      some report) :
    ∃ referencedNames,
      VariableQuality.ofContainer config container referencedNames = .ok report.1 := by
  simp only [ofContainer, runVariables, Outcome.result_of] at h
  split at h
  · cases h
  · obtain ⟨quality, hquality, hreport⟩ :=
      Failure.bind_eq_ok_iff.mp (Failure.toOption_eq_some_iff.mp h)
    obtain ⟨message, -, rfl⟩ := Failure.map_eq_ok_iff.mp hreport
    exact ⟨_, hquality⟩

variable {overrides : Json} (hread : Config.Read overrides config)
  (hfinite : ∀ x ∈ config.weights, x.value?.isSome = true)

include hread hfinite

/-- The value of a dimension is a percentage. -/
theorem within_value? {dimension : Dimension} {value : Exact}
    (h : (ofContainer config prevented container log warnings).value? dimension = some value) :
    Within 0 100 value := by
  cases dimension with
  | tagCleanliness =>
    obtain ⟨rules, hrules, rfl⟩ := Option.map_eq_some_iff.mp h
    have hclean := TagRules.clean_le_total config container
    rw [eq_of_tagRules_ofContainer hrules] at hclean
    exact Score.within_cleanliness hclean
  | triggerCleanliness =>
    obtain ⟨⟨quality, message⟩, -, rfl⟩ := Option.map_eq_some_iff.mp h
    exact Score.within_cleanliness List.countP_le_length
  | variableCleanliness =>
    obtain ⟨⟨quality, message⟩, -, rfl⟩ := Option.map_eq_some_iff.mp h
    exact Score.within_cleanliness List.countP_le_length
  | consent =>
    obtain ⟨coverage, -, rfl⟩ := Option.map_eq_some_iff.mp h
    exact Score.within_percentage coverage.within_score
  | triggerQuality =>
    obtain ⟨report, hreport, rfl⟩ := Option.map_eq_some_iff.mp h
    obtain ⟨referenced, hquality⟩ := exists_of_triggerQuality hreport
    have hunclamped := TriggerQuality.unclamped_ofContainer hread hfinite hquality
    exact Score.within_percentage hunclamped.score.within
  | variableQuality =>
    obtain ⟨report, hreport, rfl⟩ := Option.map_eq_some_iff.mp h
    obtain ⟨referencedNames, hquality⟩ := exists_of_variableQuality hreport
    have hunclamped := VariableQuality.unclamped_ofContainer hread hfinite hquality
    exact Score.within_percentage hunclamped.score.within
  | htmlSecurity =>
    obtain ⟨security, -, rfl⟩ := Option.map_eq_some_iff.mp h
    exact Score.within_percentage (security.within_score hread hfinite)

end Values

/-- Under an accepted configuration with finite weights no score of any container needs a bound. -/
theorem unclamped_of_accepted {overrides : Json} {config : Config}
    (haccepted : Config.ofJson overrides = .ok config)
    (hfinite : ∀ x ∈ config.weights, x.value?.isSome = true) (container : Container) :
    Unclamped config container := by
  have hread := Config.ofJson_eq_ok_iff.mp haccepted
  obtain ⟨w, hw⟩ := Config.exists_exact_scoreWeights hread hfinite
  exact {
    tags := TagRules.clean_le_total config container
    consent := fun coverage _ => ⟨coverage.count_add, coverage.within_score⟩
    triggerQuality := fun _ _ => TriggerQuality.unclamped_ofContainer hread hfinite
    variableQuality := fun _ _ => VariableQuality.unclamped_ofContainer hread hfinite
    security := fun security _ => security.within_score hread hfinite
    dimensions := fun _ _ _ _ _ hvalue =>
      have hwithin := within_value? hread hfinite hvalue
      ⟨hwithin, Score.bounded_eq hwithin⟩
    contributions := fun _ _ _ _ _ hvalue =>
      Score.within_contribution? hw.ofNumber_eq hw.nonneg
        (fun _ _ => within_value? hread hfinite) hvalue }

/-- Overrides by which only the support for changing pages counts, and nothing is left of it. -/
def severePenalty : Json := .object [
  ("trigger_weights", .object [("specificity", .nat 0), ("blocking", .nat 0), ("timing", .nat 0),
    ("hygiene", .nat 0)]),
  ("spa_penalty_score", .nat 0)]

/-- The overrides are accepted with finite weights, and no score of a container needs a bound. -/
theorem unclamped_severePenalty : ∃ config, Config.ofJson severePenalty = .ok config ∧
    (∀ x ∈ config.weights, x.value?.isSome = true) ∧
    Unclamped config (containerOf pausedTagExport) := by
  have hread : (Config.ofJson severePenalty).map
      (fun config => config.weights.all (·.value?.isSome)) = .ok true := by
    decide +kernel
  obtain ⟨config, haccepted, hweights⟩ := Failure.map_eq_ok_iff.mp hread
  have hfinite : ∀ x ∈ config.weights, x.value?.isSome = true := List.all_eq_true.mp hweights
  exact ⟨config, haccepted, hfinite, unclamped_of_accepted haccepted hfinite _⟩

end Audit

end TagAudit
