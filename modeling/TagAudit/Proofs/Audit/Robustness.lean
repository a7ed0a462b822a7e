import TagAudit.Proofs.Audit.Isolation
import TagAudit.Proofs.Consent.Sources
import TagAudit.Proofs.Script.Scan

/-!
# When no analysis fails

Fields of the wrong type are mostly treated as absent, but not everywhere. This module tells
exactly which containers every analysis gives a result for under the default configuration: what
keeps one from it are the parameters of a condition that are a number or a truth value, composite
keys of a map of consent settings, patterns that the checker of regular expressions cannot read,
and the intervals of timers with too many digits.
-/

namespace TagAudit

open Failure

namespace Condition

/-- Can the value that a condition compares with be read? It can unless it has to be looked for
among parameters that are a number other than zero or the truth value true. -/
def isReadable (condition : Json) : Bool :=
  !condition.isObject || (condition.get? "value").isSome ||
    match condition.get "parameter" with
    | .number n => n.isZero
    | .bool b => !b
    | _ => true

/-- A condition's value is read exactly if it is readable. -/
theorem isOk_value (condition : Json) : (value condition).isOk = isReadable condition := by
  unfold value isReadable
  cases condition.isObject with
  | false => rfl
  | true =>
    cases condition.get? "value" with
    | some own => rfl
    | none =>
      cases condition.get "parameter" with
      | number n => cases h : n.isZero <;> simp [comparedValue, Json.isNonempty, h]
      | bool b => cases b <;> rfl
      | _ => rfl

/-- Several conditions are never read, a single one always. -/
def areReadable : List Json → Bool
  | [condition] => isReadable condition
  | _ => true

theorem isOk_holdEverywhere (conditions : List Json) :
    (holdEverywhere conditions).isOk = areReadable conditions := by
  cases conditions with
  | nil => rfl
  | cons condition rest =>
    cases rest with
    | nil => exact (isOk_map ..).trans (isOk_value condition)
    | cons _ _ => rfl

end Condition

namespace Trigger

/-- Only page views are asked whether they fire on every page. -/
theorem isOk_judge (trigger : Trigger) :
    trigger.judge.isOk =
      (trigger.family != "PAGEVIEW" || Condition.areReadable trigger.conditions) := by
  rw [judge, isOk_map, firesOnAllPages]
  by_cases h : trigger.family = "PAGEVIEW"
  · simp [h, Condition.isOk_holdEverywhere]
  · simp [h]

end Trigger

namespace TriggerQuality

/-- Can it be told why a trigger should not block a tag? -/
def isBlockingReadable (container : Container) (tag : Tag) (id : String) : Bool :=
  tag.firingTriggerIds.contains id || (container.trigger? id).all fun trigger =>
    !TriggerFamily.pageLoads.contains trigger.family || Condition.areReadable trigger.conditions

theorem isOk_blockingReason? (container : Container) (tag : Tag) (id : String) :
    (blockingReason? container tag id).isOk = isBlockingReadable container tag id := by
  unfold blockingReason? isBlockingReadable
  cases tag.firingTriggerIds.contains id with
  | true => rfl
  | false =>
    cases container.trigger? id with
    | none => rfl
    | some trigger =>
      by_cases h : trigger.family ∈ TriggerFamily.pageLoads <;>
        simp [h, Condition.isOk_holdEverywhere]

/-- The triggers of a container can be judged exactly if their page views are readable and so are
the triggers that block the reviewed tags. -/
theorem isOk_ofContainer (container : Container) (referenced : List String) :
    (ofContainer container referenced).isOk =
      (((reviewedTags container).all fun tag =>
        tag.blockingTriggerIds.all (isBlockingReadable container tag)) &&
      container.triggers.all fun trigger =>
        trigger.family != "PAGEVIEW" || Condition.areReadable trigger.conditions) := by
  have hw : (wrongBlockings container).isOk = (reviewedTags container).all fun tag =>
      tag.blockingTriggerIds.all (isBlockingReadable container tag) := by
    simp only [wrongBlockings, blockingsOfTag, isOk_map, isOk_mapM, isOk_blockingReason?]
  have hj : (container.triggers.mapM Trigger.judge).isOk = container.triggers.all fun trigger =>
      trigger.family != "PAGEVIEW" || Condition.areReadable trigger.conditions := by
    simp only [isOk_mapM, Trigger.isOk_judge]
  rw [ofContainer_eq, ← hw, ← hj]
  cases wrongBlockings container with
  | error _ => rfl
  | ok blockings => exact isOk_map ..

end TriggerQuality

theorem ConsentCoverage.isOk_ofContainer (container : Container) : (ofContainer container).isOk =
    (container.tags.filter Marketing.isMarketing).all fun tag =>
      tag.parameters.all ConsentDeclaration.isReadable := by
  simp only [ofContainer, ConsentVerdict.ofTag, isOk_map, isOk_mapM, ConsentDeclaration.isOk_ofTag]

namespace Variable

/-- A search for the first faulty pattern succeeds exactly if it meets none that the checker
cannot read. -/
theorem isOk_firstMalformed? (patterns : List String) : (firstMalformed? patterns).isOk = true ↔
    SoundUntil (fun pattern => (Regex.scriptFault? pattern).isOk = false)
      (fun pattern => ∃ fault, Regex.scriptFault? pattern = .ok (some fault)) patterns := by
  induction patterns with
  | nil => simp [firstMalformed?, soundUntil_nil]
  | cons pattern rest ih =>
    rw [soundUntil_cons_iff, ← ih, firstMalformed?]
    cases Regex.scriptFault? pattern with
    | error e => simp [bind, Except.bind]
    | ok found => cases found <;> simp [bind, Except.bind, pure, Except.pure]

/-- Only the patterns of a regular expression table keep a variable from being judged. -/
theorem isOk_judge (self : Variable) : self.judge.isOk = true ↔ (self.kind = .regexTable →
    SoundUntil (fun pattern => (Regex.scriptFault? pattern).isOk = false)
      (fun pattern => ∃ fault, Regex.scriptFault? pattern = .ok (some fault)) self.patterns) := by
  rw [judge, isOk_map, finding?]
  cases hk : self.kind <;> simp [isOk_firstMalformed?]

end Variable

theorem VariableQuality.isOk_ofContainer (config : Config) (container : Container)
    (referencedNames : List String) : (ofContainer config container referencedNames).isOk =
      container.userVariables.all (·.judge.isOk) := by
  rw [ofContainer_eq, isOk_map, isOk_mapM]

theorem ScriptSecurity.isOk_ofContainer (config : Config) (container : Container) :
    (ofContainer config container).isOk = (container.tags.filter (·.kind == "html")).all
      fun tag => (Script.scan config (ScriptReview.firingFamily container tag)
        tag.html.toList).isOk := by
  simp only [ofContainer, isOk_map, isOk_mapM, ScriptReview.ofTag?]

/-- A score has a status under thresholds that are all numbers. -/
theorem Score.exists_status (score : Number) {thresholds : Severity → Json}
    (h : ∀ severity, (thresholds severity).number?.isSome = true) :
    ∃ found, status score thresholds = .ok found := by
  have hb : ∀ severity, ∃ below, isBelow score (thresholds severity) = .ok below := by
    intro severity
    obtain ⟨limit, hl⟩ := Option.isSome_iff_exists.mp (h severity)
    exact ⟨score.lt limit, by rw [isBelow, hl]⟩
  obtain ⟨critical, hc⟩ := hb .critical
  obtain ⟨major, hm⟩ := hb .major
  obtain ⟨minor, hn⟩ := hb .minor
  rw [status, hc, hm, hn]
  cases critical <;> cases major <;> cases minor <;> exact ⟨_, rfl⟩

/-- The containers for which no analysis fails under the default configuration. -/
structure Container.Analyzable (container : Container) : Prop where
  /-- No marketing tag has consent settings in a map with a composite key. -/
  consent : ∀ tag ∈ container.tags, Marketing.isMarketing tag = true →
    ∀ parameter ∈ tag.parameters, ConsentDeclaration.isReadable parameter = true
  /-- A page view has other than one condition, or one that can be read. -/
  pageViews : ∀ trigger ∈ container.triggers, trigger.family = "PAGEVIEW" →
    Condition.areReadable trigger.conditions = true
  /-- So has a trigger of a page load that blocks an advertising tag which it does not fire. -/
  blockings : ∀ tag ∈ TriggerQuality.reviewedTags container, ∀ id ∈ tag.blockingTriggerIds,
    id ∉ tag.firingTriggerIds → ∀ trigger, container.trigger? id = some trigger →
      trigger.family ∈ TriggerFamily.pageLoads → Condition.areReadable trigger.conditions = true
  /-- No pattern of a table up to the first faulty one is beyond the checker. Groups are taken to be
  nested within the limit of recursion, as values are: the depth at which a checker gives up, at some
  hundred groups, is not part of the condition. -/
  patterns : ∀ self ∈ container.userVariables, self.kind = .regexTable →
    SoundUntil (fun pattern => (Regex.scriptFault? pattern).isOk = false)
      (fun pattern => ∃ fault, Regex.scriptFault? pattern = .ok (some fault)) self.patterns
  /-- No interval of a timer up to the first tight one has too many digits. -/
  timers : ∀ tag ∈ container.tags, tag.kind = "html" → ∀ timer ∈ ["setInterval", "setTimeout"],
    SoundUntil (Script.isUnreadable · = true)
      (Script.isTight Config.default.minTimerInterval · = true)
      (Script.timerIntervals tag.html.toList timer)

namespace Audit

/-- An audit that nothing was taken from: every analysis has a result and nothing is missing. -/
structure Unharmed (audit : Audit) : Prop where
  tagRules : audit.tagRules.result.isSome = true
  consent : audit.consent.result.isSome = true
  triggerQuality : audit.triggerQuality.result.isSome = true
  variableQuality : audit.variableQuality.result.isSome = true
  security : audit.security.result.isSome = true
  unavailable : audit.unavailable = []

/-- Every default threshold is a number. -/
theorem isSome_defaultThreshold (severity : Severity) :
    (Config.default.statusThresholds severity).number?.isSome = true := by
  cases severity <;> rfl

section Thresholds

variable {config : Config}
  (hthresholds : ∀ severity, (config.statusThresholds severity).number?.isSome = true)

include hthresholds

theorem isOk_triggerReport (container : Container) :
    (triggerReport config container).isOk = (TriggerQuality.ofContainer container
      (graph config container).referencedTriggerIds).isOk := by
  refine isOk_bind_of_forall (fun quality => ?_) _
  obtain ⟨status, hs⟩ := Score.exists_status (quality.score config) hthresholds
  rw [isOk_map, TriggerQuality.message, hs]
  rfl

theorem isOk_variableReport (container : Container) :
    (variableReport config container).isOk =
      (VariableQuality.ofContainer config container
        (graph config container).referencedNames).isOk := by
  refine isOk_bind_of_forall (fun quality => ?_) _
  obtain ⟨status, hs⟩ := Score.exists_status (quality.score config) hthresholds
  rw [isOk_map, VariableQuality.message, hs]
  rfl

end Thresholds

/-- The analyses that can fail all succeed exactly on an analyzable container. -/
theorem isOk_all_iff (container : Container) :
    ((ConsentCoverage.ofContainer container).isOk = true ∧
      (triggerReport Config.default container).isOk = true ∧
      (variableReport Config.default container).isOk = true ∧
      (ScriptSecurity.ofContainer Config.default container).isOk = true) ↔
    container.Analyzable := by
  rw [ConsentCoverage.isOk_ofContainer, isOk_triggerReport isSome_defaultThreshold,
    isOk_variableReport isSome_defaultThreshold,
    TriggerQuality.isOk_ofContainer, VariableQuality.isOk_ofContainer,
    ScriptSecurity.isOk_ofContainer]
  simp only [List.all_eq_true, List.mem_filter, Bool.and_eq_true, Variable.isOk_judge,
    Script.isOk_scan, Script.TimersReadable, beq_iff_eq]
  constructor
  · rintro ⟨hconsent, ⟨hblocking, hviews⟩, hpatterns, htimers⟩
    refine ⟨fun tag ht hm => hconsent tag ⟨ht, hm⟩, fun trigger ht hf => ?_,
      fun tag ht id hid hfire trigger he hf => ?_, hpatterns, fun tag ht hk => htimers tag ⟨ht, hk⟩⟩
    · simpa [hf] using hviews trigger ht
    · simpa [TriggerQuality.isBlockingReadable, hfire, he, hf] using hblocking tag ht id hid
  · intro h
    refine ⟨fun tag ht => h.consent tag ht.1 ht.2, ⟨fun tag ht id hid => ?_, fun trigger ht => ?_⟩,
      h.patterns, fun tag ht => h.timers tag ht.1 ht.2⟩
    · by_cases hfire : id ∈ tag.firingTriggerIds
      · simp [TriggerQuality.isBlockingReadable, hfire]
      · cases he : container.trigger? id with
        | none => simp [TriggerQuality.isBlockingReadable, he]
        | some trigger =>
          by_cases hf : trigger.family ∈ TriggerFamily.pageLoads
          · simp [TriggerQuality.isBlockingReadable, he,
              h.blockings tag ht id hid hfire trigger he hf]
          · simp [TriggerQuality.isBlockingReadable, he, hf]
    · by_cases hf : trigger.family = "PAGEVIEW"
      · simp [h.pageViews trigger ht hf]
      · simp [hf]

/-- Nothing is taken from the audit of data exactly if their container is analyzable. -/
theorem unharmed_iff (data : Json) :
    (ofData Config.default (fun _ => false) data).Unharmed ↔ (containerOf data).Analyzable := by
  rw [← isOk_all_iff]
  simp only [← isSome_toOption]
  constructor
  · intro h
    refine ⟨?_, ?_, ?_, ?_⟩
    · simpa [consent_ofData] using h.consent
    · simpa [triggerQuality_ofData] using h.triggerQuality
    · simpa [variableQuality_ofData] using h.variableQuality
    · simpa [security_ofData] using h.security
  · rintro ⟨hconsent, htrigger, hvariable, hsecurity⟩
    have hcomplete : (ofData Config.default (fun _ => false) data).failures = [] := by
      refine List.filter_eq_nil_iff.mpr fun helper _ => ?_
      cases helper <;>
        simp [hasFailed, Outcome.failed, usage_ofData, tagRules_ofData, consent_ofData,
          triggerQuality_ofData, variableQuality_ofData, security_ofData, unresolved_ofData,
          migration_ofData, ← Option.isSome_iff_ne_none, hconsent, htrigger, hvariable, hsecurity]
    refine ⟨?_, ?_, ?_, ?_, ?_, ?_⟩
    · simp [tagRules_ofData]
    · simpa [consent_ofData] using hconsent
    · simpa [triggerQuality_ofData] using htrigger
    · simpa [variableQuality_ofData] using hvariable
    · simpa [security_ofData] using hsecurity
    · rw [unavailable, hcomplete, unavailable_isolated _ _ _ hcomplete]
      simp

/-- A page view whose single condition has a number for its parameters. -/
def numberParameterExport : Json := .object [
  ("trigger", .array [.object [("triggerId", .string "1"), ("type", .string "PAGEVIEW"),
    ("filter", .array [.object [("parameter", .nat 5)]])]])]

/-- The number is not treated as absent: the analysis of triggers fails, and its dimensions have no
value. -/
theorem not_unharmed_numberParameterExport :
    (ofData Config.default (fun _ => false) numberParameterExport).unavailable =
        ["trigger_quality", "triggers"] ∧
      ¬ (ofData Config.default (fun _ => false) numberParameterExport).Unharmed := by
  have hunavailable : (ofData Config.default (fun _ => false) numberParameterExport).unavailable =
      ["trigger_quality", "triggers"] := by decide +kernel
  refine ⟨hunavailable, fun h => ?_⟩
  have hempty := h.unavailable
  rw [hunavailable] at hempty
  cases hempty

end Audit

end TagAudit
