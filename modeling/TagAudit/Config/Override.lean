import TagAudit.Config.Basic
import TagAudit.Json.Order

/-!
# Overriding the configuration

A configuration is read from an object of overrides. Tables are merged key by key over the
defaults, so that a partial override keeps the other entries, and the merged configuration is
checked field by field; the first fault found is reported.
-/

namespace TagAudit.Config

/-- Why overrides are refused. -/
inductive Error
  | notAnObject
  | unknownFields (names : List String)
  | notATable (field : String)
  | unknownKeys (table : String) (keys : List String)
  | badWeight (table key : String)
  | noWeight (table : String)
  | badSeverity (key : String)
  | badThresholdKeys
  | unorderedThresholds
  | penaltyOutOfRange
  | badLimit (field : String)
  | crossedNameLengths
  /-- Two values were to be compared that have no order. -/
  | incomparable
  deriving DecidableEq, Repr

/-- Names in the order of their code points, separated by commas. -/
def listed (names : List String) : String :=
  ", ".intercalate (names.mergeSort fun a b => a ≤ b)

/-- The words for a refusal. -/
def Error.message : Error → String
  | notAnObject => "Configuration must be a JSON object"
  | unknownFields names => s!"Unknown configuration keys: {listed names}"
  | notATable field => s!"'{field}' must be an object"
  | unknownKeys table keys => s!"Unknown keys in '{table}': {listed keys}"
  | badWeight table key => s!"Weight '{table}.{key}' must be a non-negative number"
  | noWeight table => s!"Weights in '{table}' must not all be zero"
  | badSeverity key => s!"Severity for '{key}' must be one of minor, major, critical"
  | badThresholdKeys => "'status_thresholds' needs exactly critical, major and minor"
  | unorderedThresholds => "'status_thresholds' must satisfy critical <= major <= minor"
  | penaltyOutOfRange => "'spa_penalty_score' must be between 0 and 1"
  | badLimit field => s!"'{field}' must be a non-negative integer"
  | crossedNameLengths => "'name_min_length' must not exceed 'name_max_length'"
  | incomparable => "values of different kinds cannot be compared"

/-- The fields that are tables. -/
def tableFields : List String :=
  ["score_weights", "trigger_weights", "variable_weights", "html_severity_weights",
    "variable_severities", "status_thresholds"]

/-- All fields. -/
def fields : List String :=
  tableFields ++ ["spa_penalty_score", "min_timer_interval_ms", "max_statements_without_try",
    "max_parameter_depth", "name_min_length", "name_max_length"]

/-- Is the value a number that is not negative? -/
def isWeight : Json → Bool
  | .number n => !n.lt (.int 0)
  | _ => false

/-- The weight that an override gives for a key, the default where it gives none. -/
def weightFrom {κ : Type} (key : κ → String) (standard : κ → Number) (override : Json) (k : κ) :
    Number :=
  match override.get? (key k) with
  | some (.number n) => n
  | _ => standard k

/-- A weight table over `keys`. Unknown keys are refused first, then the first bad weight, then a
table without weight where `needed` says so. -/
def readWeights {κ : Type} (table : String) (keys : List κ) (key : κ → String)
    (standard : κ → Number) (needed : Bool) (override : Json) : Except Error (κ → Number) :=
  let unknown := (override.members.map (·.1)).filter fun name => !(keys.map key).contains name
  let weights := weightFrom key standard override
  if !unknown.isEmpty then .error (.unknownKeys table unknown)
  else match keys.find? fun k => (override.get? (key k)).any (!isWeight ·) with
    | some k => .error (.badWeight table (key k))
    | none =>
      if needed && (Scalar.sum (keys.map weights)).le (.int 0) then .error (.noWeight table)
      else .ok weights

/-- The severity that a value names. -/
def severity? (value : Json) : Option Severity := value.string?.bind Severity.ofName?

/-- The severities of variable problems: overrides replace the defaults in place, and further
categories follow. -/
def readSeverities (override : Json) : Except Error (List (String × Severity)) :=
  let standard := defaultVariableSeverities.map fun (key, severity) =>
    (key, Json.string severity.name)
  (Json.assignAll standard override.members).mapM fun (key, value) =>
    match severity? value with
    | some severity => .ok (key, severity)
    | none => .error (.badSeverity key)

/-- The thresholds, which must be in order. -/
def readThresholds (override : Json) : Except Error (Severity → Json) :=
  let thresholds severity := (override.get? severity.name).getD (defaultStatusThresholds severity)
  if (override.members.map (·.1)).any fun key => (Severity.ofName? key).isNone then
    .error .badThresholdKeys
  else match (thresholds .critical).atMost? (thresholds .major) with
    | none => .error .incomparable
    | some false => .error .unorderedThresholds
    | some true =>
      match (thresholds .major).atMost? (thresholds .minor) with
      | none => .error .incomparable
      | some false => .error .unorderedThresholds
      | some true => .ok thresholds

/-- The penalty score, which must count as a number between zero and one. -/
def readPenalty (value : Json) : Except Error Json :=
  match value.number? with
  | none => .error .incomparable
  | some n =>
    if Number.le (.int 0) n && n.le (.int 1) then .ok value else .error .penaltyOutOfRange

/-- A limit, which must be a whole number that is not negative. -/
def readLimit (field : String) (standard : Nat) (override : Option Json) : Except Error Nat :=
  match override with
  | none => .ok standard
  | some (.number (.int n)) => if n < 0 then .error (.badLimit field) else .ok n.toNat
  | some _ => .error (.badLimit field)

/-- The configuration that overrides make of the defaults. -/
def ofJson (overrides : Json) : Except Error Config := do
  if !overrides.isObject then throw .notAnObject
  let unknown := (overrides.members.map (·.1)).filter fun name => !fields.contains name
  if !unknown.isEmpty then throw (.unknownFields unknown)
  match overrides.members.find? fun (name, value) =>
      tableFields.contains name && !value.isObject with
  | some (name, _) => throw (.notATable name)
  | none => pure ()
  let table (name : String) : Json := (overrides.get? name).getD (.object [])
  let scoreWeights ← readWeights "score_weights" Dimension.all (·.key) defaultScoreWeights true
    (table "score_weights")
  let triggerWeights ← readWeights "trigger_weights" TriggerAspect.all (·.key)
    defaultTriggerWeights true (table "trigger_weights")
  let variableWeights ← readWeights "variable_weights" VariableAspect.byWeight (·.key)
    defaultVariableWeights true (table "variable_weights")
  let htmlSeverityWeights ← readWeights "html_severity_weights" severityOrder (·.name)
    defaultHtmlSeverityWeights false (table "html_severity_weights")
  let variableSeverities ← readSeverities (table "variable_severities")
  let statusThresholds ← readThresholds (table "status_thresholds")
  let spaPenaltyScore ←
    readPenalty ((overrides.get? "spa_penalty_score").getD default.spaPenaltyScore)
  let limit (field : String) (standard : Nat) := readLimit field standard (overrides.get? field)
  let minTimerInterval ← limit "min_timer_interval_ms" default.minTimerInterval
  let maxStatementsWithoutTry ← limit "max_statements_without_try" default.maxStatementsWithoutTry
  let maxParameterDepth ← limit "max_parameter_depth" default.maxParameterDepth
  let nameMinLength ← limit "name_min_length" default.nameMinLength
  let nameMaxLength ← limit "name_max_length" default.nameMaxLength
  if nameMaxLength < nameMinLength then throw .crossedNameLengths
  return ⟨scoreWeights, triggerWeights, variableWeights, htmlSeverityWeights, variableSeverities,
    statusThresholds, spaPenaltyScore, minTimerInterval, maxStatementsWithoutTry,
    maxParameterDepth, nameMinLength, nameMaxLength⟩

end TagAudit.Config
