import TagAudit.Json.Basic
import TagAudit.Issue

/-!
# Configuration

Weights, thresholds, severities and limits of an analysis. A weight table gives a number for every
member of its kind; a threshold may be any value until it is compared.
-/

namespace TagAudit

/-- The dimensions of the quality score. -/
inductive Dimension
  | tagCleanliness
  | triggerCleanliness
  | variableCleanliness
  | consent
  | triggerQuality
  | variableQuality
  | htmlSecurity
  deriving DecidableEq, Repr, Inhabited

namespace Dimension

/-- All dimensions, in their order. -/
def all : List Dimension :=
  [tagCleanliness, triggerCleanliness, variableCleanliness, consent, triggerQuality,
    variableQuality, htmlSecurity]

/-- The key of a dimension. -/
def key : Dimension → String
  | tagCleanliness => "tags"
  | triggerCleanliness => "triggers"
  | variableCleanliness => "variables"
  | consent => "consent"
  | triggerQuality => "trigger_quality"
  | variableQuality => "variable_quality"
  | htmlSecurity => "html_security"

/-- The presented name of a dimension. -/
def label : Dimension → String
  | tagCleanliness => "Tag cleanliness"
  | triggerCleanliness => "Trigger cleanliness"
  | variableCleanliness => "Variable cleanliness"
  | consent => "Consent Mode"
  | triggerQuality => "Trigger configuration"
  | variableQuality => "Variable configuration"
  | htmlSecurity => "Custom HTML security"

@[simp] theorem mem_all (dimension : Dimension) : dimension ∈ all := by
  cases dimension <;> decide

end Dimension

/-- What the score of the trigger configuration is made of. -/
inductive TriggerAspect
  | specificity
  | blocking
  | timing
  | spa
  | hygiene
  deriving DecidableEq, Repr, Inhabited

namespace TriggerAspect

/-- All aspects, in their order. -/
def all : List TriggerAspect := [specificity, blocking, timing, spa, hygiene]

/-- The key of an aspect. -/
def key : TriggerAspect → String
  | specificity => "specificity"
  | blocking => "blocking"
  | timing => "timing"
  | spa => "spa"
  | hygiene => "hygiene"

@[simp] theorem mem_all (aspect : TriggerAspect) : aspect ∈ all := by
  cases aspect <;> decide

end TriggerAspect

/-- What the score of the variable configuration is made of. -/
inductive VariableAspect
  | dataLayer
  | lookup
  | hygiene
  | selectors
  | scripts
  | regex
  deriving DecidableEq, Repr, Inhabited

namespace VariableAspect

/-- All aspects, in the order in which their scores are added. -/
def all : List VariableAspect := [dataLayer, lookup, hygiene, selectors, scripts, regex]

/-- All aspects, in the order of their weight table. -/
def byWeight : List VariableAspect := [dataLayer, selectors, scripts, lookup, regex, hygiene]

/-- The key of an aspect. -/
def key : VariableAspect → String
  | dataLayer => "dlv"
  | lookup => "lookup"
  | hygiene => "hygiene"
  | selectors => "selectors"
  | scripts => "js"
  | regex => "regex"

@[simp] theorem mem_all (aspect : VariableAspect) : aspect ∈ all := by
  cases aspect <;> decide

@[simp] theorem mem_byWeight (aspect : VariableAspect) : aspect ∈ byWeight := by
  cases aspect <;> decide

end VariableAspect

/-- The configuration of an analysis. -/
structure Config where
  scoreWeights : Dimension → Number
  triggerWeights : TriggerAspect → Number
  variableWeights : VariableAspect → Number
  htmlSeverityWeights : Severity → Number
  /-- Severities of the problems of variables, by category. -/
  variableSeverities : List (String × Severity)
  /-- Scores below these have the status of their name. -/
  statusThresholds : Severity → Json
  /-- The score for page changes that no trigger notices. -/
  spaPenaltyScore : Json
  minTimerInterval : Nat
  maxStatementsWithoutTry : Nat
  maxParameterDepth : Nat
  nameMinLength : Nat
  nameMaxLength : Nat

namespace Config

/-- The number of so many hundredths. -/
def hundredths (n : Nat) : Number := .decimal n (-2)

/-- The weights of the dimensions by default. -/
def defaultScoreWeights : Dimension → Number
  | .tagCleanliness => hundredths 18
  | .triggerCleanliness => hundredths 18
  | .variableCleanliness => hundredths 14
  | .consent => hundredths 14
  | .triggerQuality => hundredths 14
  | .variableQuality => hundredths 14
  | .htmlSecurity => hundredths 8

/-- The weights of the trigger aspects by default. -/
def defaultTriggerWeights : TriggerAspect → Number
  | .specificity => hundredths 40
  | .blocking => hundredths 20
  | .timing => hundredths 20
  | .spa => hundredths 10
  | .hygiene => hundredths 10

/-- The weights of the variable aspects by default. -/
def defaultVariableWeights : VariableAspect → Number
  | .dataLayer => hundredths 30
  | .selectors => hundredths 20
  | .scripts => hundredths 20
  | .lookup => hundredths 15
  | .regex => hundredths 10
  | .hygiene => hundredths 5

/-- The weights of the severities of script findings by default. -/
def defaultHtmlSeverityWeights : Severity → Number
  | .critical => hundredths 50
  | .major => hundredths 25
  | .minor => hundredths 10

/-- The severities of the problems of variables by default. -/
def defaultVariableSeverities : List (String × Severity) :=
  [("lookup_without_default", .critical), ("js_unsafe_code", .critical),
    ("dlv_missing_fallback", .major), ("regex_malformed", .major),
    ("css_fragile_selectors", .minor), ("variable_unused", .minor),
    ("variable_duplicate", .minor)]

/-- The thresholds by default. -/
def defaultStatusThresholds : Severity → Json
  | .critical => .number (hundredths 50)
  | .major => .number (hundredths 70)
  | .minor => .number (hundredths 85)

/-- The configuration by default. -/
def default : Config where
  scoreWeights := defaultScoreWeights
  triggerWeights := defaultTriggerWeights
  variableWeights := defaultVariableWeights
  htmlSeverityWeights := defaultHtmlSeverityWeights
  variableSeverities := defaultVariableSeverities
  statusThresholds := defaultStatusThresholds
  spaPenaltyScore := .number (hundredths 50)
  minTimerInterval := 250
  maxStatementsWithoutTry := 10
  maxParameterDepth := 50
  nameMinLength := 3
  nameMaxLength := 50

instance : Inhabited Config := ⟨default⟩

/-- The severities in the order of their tables. -/
def severityOrder : List Severity := [.critical, .major, .minor]

@[simp] theorem mem_severityOrder (severity : Severity) : severity ∈ severityOrder := by
  cases severity <;> decide

/-- A table over a kind as an object. -/
def tableJson {κ : Type} (keys : List κ) (key : κ → String) (value : κ → Json) : Json :=
  .object (keys.map fun k => (key k, value k))

/-- A configuration as a value. -/
def toJson (config : Config) : Json :=
  .object
    [("score_weights", tableJson Dimension.all (·.key) (.number <| config.scoreWeights ·)),
      ("trigger_weights", tableJson TriggerAspect.all (·.key) (.number <| config.triggerWeights ·)),
      ("variable_weights",
        tableJson VariableAspect.byWeight (·.key) (.number <| config.variableWeights ·)),
      ("html_severity_weights",
        tableJson severityOrder (·.name) (.number <| config.htmlSeverityWeights ·)),
      ("variable_severities",
        .object (config.variableSeverities.map fun (k, severity) => (k, .string severity.name))),
      ("status_thresholds", tableJson severityOrder (·.name) config.statusThresholds),
      ("spa_penalty_score", config.spaPenaltyScore),
      ("min_timer_interval_ms", .nat config.minTimerInterval),
      ("max_statements_without_try", .nat config.maxStatementsWithoutTry),
      ("max_parameter_depth", .nat config.maxParameterDepth),
      ("name_min_length", .nat config.nameMinLength),
      ("name_max_length", .nat config.nameMaxLength)]

end Config

end TagAudit
