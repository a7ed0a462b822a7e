import TagAudit.Audit.Helper
import TagAudit.Consent.Coverage
import TagAudit.IssueIndex
import TagAudit.Tags.Migration
import TagAudit.Tags.Rules
import TagAudit.Tags.Security
import TagAudit.Triggers.Quality
import TagAudit.Usage.Unresolved
import TagAudit.Variables.Quality

/-!
# Audits

An audit runs every helper over one container. It keeps the outcome of each, so a failure takes
nothing from the others, and joins the issues that they found. Data that are no container are
audited as an empty one.
-/

namespace TagAudit

/-- The outcomes of all helpers on a container. -/
structure Audit where
  config : Config
  container : Container
  /-- What was said while the data were read. -/
  readingLog : List LogRecord
  /-- What the reader of the audit has to know about the data. -/
  warnings : List String
  usage : Outcome UsageGraph
  tagRules : Outcome TagRules
  consent : Outcome ConsentCoverage
  triggerQuality : Outcome (TriggerQuality × StatusMessage)
  variableQuality : Outcome (VariableQuality × StatusMessage)
  security : Outcome ScriptSecurity
  unresolved : Outcome (List Issue)
  migration : Outcome (List MigrationSuggestion)

namespace Audit

section Helpers

variable (config : Config) (container : Container)

/-- The usage graph of the container. -/
def graph : UsageGraph := UsageGraph.ofContainer container config.maxParameterDepth

/-- What the log says about building the graph. -/
def graphLog : List LogRecord := UsageGraph.buildLog container config.maxParameterDepth

/-- The rules for tags and names. -/
def runTagRules (prevented : Bool) : Outcome TagRules :=
  let rules := TagRules.ofContainer config container
  .of .tagRules prevented rules.log (.ok rules)

/-- What a result has to say; nothing where there is none. -/
def logOf {α : Type} (log : α → List LogRecord) : Except AnalysisError α → List LogRecord
  | .ok value => log value
  | .error _ => []

/-- The coverage of consent. -/
def runConsent (prevented : Bool) : Outcome ConsentCoverage :=
  let coverage := ConsentCoverage.ofContainer container
  .of .consentMode prevented (logOf ConsentCoverage.log coverage) coverage

/-- The quality of triggers. The graph is built again where there is none. -/
def runTriggers (prevented : Bool) (usage : Option UsageGraph) :
    Outcome (TriggerQuality × StatusMessage) :=
  let referenced := (usage.getD (graph config container)).referencedTriggerIds
  let quality := TriggerQuality.ofContainer container referenced
  .of .triggerQuality prevented
    ((if usage.isSome then [] else graphLog config container) ++ logOf (·.log config) quality)
    (quality.bind fun value => (value.message config).map (value, ·))

/-- The quality of variables. The graph is built again where there is none. -/
def runVariables (prevented : Bool) (usage : Option UsageGraph) :
    Outcome (VariableQuality × StatusMessage) :=
  let referenced := (usage.getD (graph config container)).referencedNames
  let quality := VariableQuality.ofContainer config container referenced
  .of .variableQuality prevented
    ((if usage.isSome then [] else graphLog config container) ++ logOf (·.log config) quality)
    (quality.bind fun value => (value.message config).map (value, ·))

/-- The security of scripts. -/
def runSecurity (prevented : Bool) : Outcome ScriptSecurity :=
  let security := ScriptSecurity.ofContainer config container
  .of .htmlSecurity prevented (logOf ScriptSecurity.log security) security

/-- The unresolved references; without a graph there are none to look for. -/
def runUnresolved (prevented : Bool) : Option UsageGraph → Outcome (List Issue)
  | none => ⟨[], some []⟩
  | some usage =>
    .of .unresolvedReferences prevented [] (.ok (UsageGraph.unresolvedIssues container usage))

end Helpers

/-- The audit of a container, where some helpers are prevented from running. -/
def ofContainer (config : Config) (prevented : Helper → Bool) (container : Container)
    (readingLog : List LogRecord) (warnings : List String) : Audit :=
  let usage : Outcome UsageGraph := .of .usageGraph (prevented .usageGraph)
    (graphLog config container) (.ok (graph config container))
  { config, container, readingLog, warnings, usage
    tagRules := runTagRules config container (prevented .tagRules)
    consent := runConsent container (prevented .consentMode)
    triggerQuality := runTriggers config container (prevented .triggerQuality) usage.result
    variableQuality := runVariables config container (prevented .variableQuality) usage.result
    security := runSecurity config container (prevented .htmlSecurity)
    unresolved := runUnresolved container (prevented .unresolvedReferences) usage.result
    migration := .of .migrationSuggestions (prevented .migrationSuggestions) []
      (.ok (MigrationSuggestion.ofContainer container)) }

/-- The audit of exported data. -/
def ofData (config : Config) (prevented : Helper → Bool) (data : Json) : Audit :=
  match Container.ofExport data with
  | .ok container => ofContainer config prevented container (Container.exportWarnings data) []
  | .error fault =>
    ofContainer config prevented {}
      [⟨.warning, "gtm_quality_engine", s!"Cannot read container: {fault.message}"⟩]
      [s!"Input is not a GTM container ({fault.message}); analyzed as empty"]

/-- Has a helper failed? -/
def hasFailed (audit : Audit) : Helper → Bool
  | .usageGraph => audit.usage.failed
  | .tagRules => audit.tagRules.failed
  | .consentMode => audit.consent.failed
  | .triggerQuality => audit.triggerQuality.failed
  | .variableQuality => audit.variableQuality.failed
  | .htmlSecurity => audit.security.failed
  | .unresolvedReferences => audit.unresolved.failed
  | .migrationSuggestions => audit.migration.failed

/-- The helpers that have failed. -/
def failures (audit : Audit) : List Helper := Helper.all.filter audit.hasFailed

/-- The issues of an outcome. -/
def issuesFrom {α : Type} (outcome : Outcome α) (issues : α → List Issue) : List Issue :=
  outcome.result.toList.flatMap issues

/-- All issues that were found, in the order of the helpers. -/
def issues (audit : Audit) : List Issue :=
  issuesFrom audit.tagRules TagRules.issues ++ issuesFrom audit.consent ConsentCoverage.issues ++
    issuesFrom audit.triggerQuality (·.1.issues) ++
    issuesFrom audit.variableQuality (·.1.issues) ++
    issuesFrom audit.security ScriptSecurity.issues ++ issuesFrom audit.unresolved id

/-- The index of all issues. -/
def index (audit : Audit) : IssueIndex := IssueIndex.ofRecords (audit.issues.map Issue.toRecord)

end Audit

end TagAudit
