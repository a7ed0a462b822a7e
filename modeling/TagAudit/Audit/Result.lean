import TagAudit.Audit.Basic
import TagAudit.Score.ActionPlan
import TagAudit.Score.Aggregate
import TagAudit.Taxonomy.TypeName

/-!
# Results of an audit

What follows from the outcomes of an audit: the values of the dimensions and the quality score,
the plan of actions, the numbers of entities by their types, and the whole as a value.
-/

namespace TagAudit.Audit

section Values

variable {α : Type} [Scalar α]

/-- The value of a dimension, if the helpers that it needs have results. -/
def value? (audit : Audit) : Dimension → Option α
  | .tagCleanliness => audit.tagRules.result.map fun rules =>
      Score.cleanliness rules.total rules.clean
  | .triggerCleanliness => audit.triggerQuality.result.map fun (quality, _) =>
      let flagged := quality.issues ++ issuesFrom audit.tagRules TagRules.triggerNaming
      let clean := audit.container.triggers.countP fun trigger =>
        !flagged.any (·.entityId == trigger.id)
      Score.cleanliness audit.container.triggers.length clean
  | .variableCleanliness => audit.variableQuality.result.map fun (quality, _) =>
      let flagged := quality.issues ++ issuesFrom audit.tagRules TagRules.variableNaming
      let clean := audit.container.userVariables.countP fun self =>
        !flagged.any (·.entityId == self.id)
      Score.cleanliness audit.container.userVariables.length clean
  | .consent => audit.consent.result.map fun coverage => Score.percentage coverage.score
  | .triggerQuality => audit.triggerQuality.result.map fun (quality, _) =>
      Score.percentage (quality.score audit.config)
  | .variableQuality => audit.variableQuality.result.map fun (quality, _) =>
      Score.percentage (quality.score audit.config)
  | .htmlSecurity => audit.security.result.map fun security =>
      Score.percentage (security.score audit.config)

end Values

/-- The quality score of the container. -/
def score (audit : Audit) : QualityScore := ⟨audit.config.scoreWeights, audit.value?⟩

/-- A number that an outcome gives, zero where there is none. -/
def countFrom {α : Type} (outcome : Outcome α) (count : α → Nat) : Nat :=
  (outcome.result.map count).getD 0

/-- The number of problems that an action is for. -/
def problems (audit : Audit) : ActionKind → Nat
  | .doublePageview =>
    countFrom audit.tagRules fun rules => if rules.doublePageView.detected then 1 else 0
  | .consentMode => countFrom audit.consent ConsentCoverage.problems
  | .htmlSecurity => countFrom audit.security ScriptSecurity.flagged
  | .triggerQuality => countFrom audit.triggerQuality fun (quality, _) =>
      quality.issues.countP (·.category != .triggerUnused)
  | .variableQuality => countFrom audit.variableQuality (·.1.faultTotal)
  | .uaObsolete => countFrom audit.tagRules TagRules.obsolete
  | .paused => countFrom audit.tagRules TagRules.paused
  | .unused =>
    countFrom audit.triggerQuality (·.1.unused) + countFrom audit.variableQuality (·.1.unused)
  | .naming => countFrom audit.tagRules TagRules.allBadNames

/-- The plan of actions. -/
def plan (audit : Audit) : List Action := Action.plan fun kind => audit.problems kind

/-- The names of what is missing from the results: the failed helpers, then the dimensions without
a value. -/
def unavailable (audit : Audit) : List String :=
  (audit.failures.map (·.name) ++ audit.score.unavailable.map (·.key)).eraseDups

/-- Families of tag types. -/
def tagFamilies : List (String × String) :=
  [("ua", "ua"), ("gaawe", "gaawe"), ("googtag", "googtag"), ("gaawc", "googtag"),
    ("html", "html")]

/-- How often each text occurs, by text. -/
def frequencies (texts : List String) : List (String × Nat) :=
  ((texts.eraseDups).mergeSort fun a b => a ≤ b).map fun text => (text, texts.count text)

/-- The frequencies as a value. -/
def frequenciesJson (texts : List String) : Json :=
  .object ((frequencies texts).map fun (text, count) => (text, .nat count))

/-- The numbers of entities by their types. -/
def distributionJson (container : Container) : Json :=
  .object [
    ("tag_families", frequenciesJson (container.tags.map fun tag =>
      (tagFamilies.lookup tag.kind).getD "other")),
    ("tag_types", frequenciesJson (container.tags.map fun tag => TypeName.ofTag tag.type)),
    ("trigger_families", frequenciesJson (container.triggers.map fun trigger =>
      if trigger.family.isEmpty then "UNKNOWN" else trigger.family)),
    ("variable_kinds", frequenciesJson (container.userVariables.map (·.kind.name)))]

/-- The numbers of entities and issues. -/
def countsJson (audit : Audit) : Json :=
  .object [("tags", .nat audit.container.tags.length),
    ("triggers", .nat audit.container.triggers.length),
    ("variables", .nat audit.container.userVariables.length),
    ("builtin_variables", .nat audit.container.builtinNames.length),
    ("paused_tags", .nat (audit.container.tags.countP (·.paused))),
    ("issues", .nat audit.issues.length)]

/-- The result of an analysis with its headline, null where it failed. -/
def resultJson {α : Type} (outcome : Outcome α) (name : String) (json : α → Json)
    (message : α → StatusMessage) : Json :=
  match outcome.result with
  | none => .null
  | some result => .object [(name, json result), ("message", (message result).toJson)]

/-- The results of the analyses by their names. -/
def resultsJson (audit : Audit) : List (String × Json) :=
  [("tag_rules", resultJson audit.tagRules "tag_rules" TagRules.toJson TagRules.message),
    ("consent_mode", resultJson audit.consent "consent_coverage" ConsentCoverage.toJson
      ConsentCoverage.message),
    ("trigger_quality", resultJson audit.triggerQuality "trigger_quality"
      (·.1.toJson audit.config) (·.2)),
    ("variable_quality", resultJson audit.variableQuality "variable_quality"
      (·.1.toJson audit.config) (·.2)),
    ("html_security", resultJson audit.security "html_security"
      (·.toJson audit.config) ScriptSecurity.message)]

/-- The whole audit as a value. -/
def toJson (audit : Audit) : Json :=
  .object <|
    [("quality_score", audit.score.toJson)] ++ audit.resultsJson ++
    [("issue_index", audit.index.toJson), ("action_plan", .array (audit.plan.map Action.toJson)),
      ("counts", audit.countsJson), ("distribution", distributionJson audit.container),
      ("migration_suggestions",
        .array ((audit.migration.result.getD []).map MigrationSuggestion.toJson)),
      ("unavailable", .strings audit.unavailable), ("warnings", .strings audit.warnings)]

/-- Everything that the log says, in order. -/
def log (audit : Audit) : List LogRecord :=
  let container := audit.container
  audit.readingLog ++
    [⟨.info, "gtm_quality_engine", s!"Analyzing container: {container.tags.length} tags, " ++
      s!"{container.triggers.length} triggers, {container.userVariables.length} variables"⟩] ++
    audit.usage.log ++ audit.tagRules.log ++ audit.consent.log ++ audit.triggerQuality.log ++
    audit.variableQuality.log ++ audit.security.log ++ audit.unresolved.log ++
    audit.migration.log ++ audit.score.log

end TagAudit.Audit
