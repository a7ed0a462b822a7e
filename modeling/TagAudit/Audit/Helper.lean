import TagAudit.AnalysisError
import TagAudit.Log

/-!
# Helpers of an audit

An audit runs several helpers. One that fails is noted in the log and leaves no result; the others
run all the same.
-/

namespace TagAudit

/-- The helpers of an audit. -/
inductive Helper
  | usageGraph
  | tagRules
  | consentMode
  | triggerQuality
  | variableQuality
  | htmlSecurity
  | unresolvedReferences
  | migrationSuggestions
  deriving DecidableEq, Repr, Inhabited

namespace Helper

/-- All helpers, in the order in which they run. -/
def all : List Helper :=
  [usageGraph, tagRules, consentMode, triggerQuality, variableQuality, htmlSecurity,
    unresolvedReferences, migrationSuggestions]

/-- The name of a helper. -/
def name : Helper → String
  | usageGraph => "usage_graph"
  | tagRules => "tag_rules"
  | consentMode => "consent_mode"
  | triggerQuality => "trigger_quality"
  | variableQuality => "variable_quality"
  | htmlSecurity => "html_security"
  | unresolvedReferences => "unresolved_references"
  | migrationSuggestions => "migration_suggestions"

@[simp] theorem mem_all (helper : Helper) : helper ∈ all := by
  cases helper <;> decide

/-- What the log says about a failure. -/
def failure (helper : Helper) : LogRecord :=
  ⟨.error, "gtm_quality_engine", s!"Analyzer '{helper.name}' failed; its results are excluded"⟩

end Helper

/-- What a helper said and its result, if it has one. -/
structure Outcome (α : Type) where
  log : List LogRecord
  result : Option α
  deriving Repr

namespace Outcome

variable {α : Type}

/-- The outcome of a helper that is kept from running, or else that says something and then has a
result or fails. -/
def of (helper : Helper) (prevented : Bool) (log : List LogRecord)
    (result : Except AnalysisError α) : Outcome α :=
  if prevented then ⟨[helper.failure], none⟩
  else match result with
    | .ok value => ⟨log, some value⟩
    | .error _ => ⟨log ++ [helper.failure], none⟩

/-- Has the helper failed? -/
def failed (outcome : Outcome α) : Bool := outcome.result.isNone

end Outcome

end TagAudit
