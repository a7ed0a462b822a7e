import TagAudit.Audit.Result
import TagAudit.Report.Breakdown
import TagAudit.Report.Findings
import TagAudit.Report.Issues
import TagAudit.Report.Presentation

/-!
# Reports

What a report shows: the score and its breakdown, numbers of entities, the headline of every
analysis, what to do, suggested replacements and the issues by entity. A report is made of an
audit.
-/

namespace TagAudit

namespace Report

/-- The headline of an analysis, with the hosts and the numbers of findings that the analysis of
scripts adds. -/
structure Headline where
  style : StatusStyle
  summary : String
  callToAction : String
  thirdParties : List String := []
  findings : List TypeCount := []
  deriving DecidableEq, Repr

/-- The headline of a message. -/
def Headline.ofMessage (message : StatusMessage) : Headline :=
  { style := .ofName message.status.name
    summary := message.summary
    callToAction := message.callToAction }

/-- The headline of the analysis of scripts. -/
def Headline.ofSecurity (security : ScriptSecurity) : Headline :=
  { Headline.ofMessage security.message with
    thirdParties := security.thirdParties
    findings := TypeCount.ofTypes <| security.reviews.flatMap fun review =>
      review.findings.map fun finding => .string finding.kind.name }

/-- The analyses that have sections of their own. -/
inductive Part
  | tagRules
  | consent
  | triggerQuality
  | variableQuality
  | security
  deriving DecidableEq, Repr, Inhabited

namespace Part

/-- All parts in the order of their sections. -/
def all : List Part := [tagRules, consent, triggerQuality, variableQuality, security]

/-- The title of a section. -/
def title : Part → String
  | tagRules => "TAGS"
  | consent => "CONSENT MODE"
  | triggerQuality => "TRIGGER QUALITY"
  | variableQuality => "VARIABLE QUALITY"
  | security => "CUSTOM HTML SECURITY"

end Part

/-- The numbers of entities and issues, as they are shown. -/
structure Counts where
  tags : String := "0"
  pausedTags : String := "0"
  triggers : String := "0"
  userVariables : String := "0"
  issues : String := "0"
  deriving DecidableEq, Repr

/-- An action that is asked for. -/
structure Step where
  action : String
  count : String
  description : String
  deriving DecidableEq, Repr

/-- A replacement that is suggested for an obsolete tag. -/
structure Replacement where
  tagName : String
  replacementName : String
  replacementType : String
  deriving DecidableEq, Repr

end Report

/-- What is shown of an audit. -/
structure Report where
  total : String
  counts : Report.Counts
  unavailable : List String
  warnings : List String
  breakdown : List Report.Column
  /-- The headlines of the analyses that have a result. -/
  headline? : Report.Part → Option Report.Headline
  steps : List Report.Step
  replacements : List Report.Replacement
  issues : List Report.IssueRow

namespace Report

/-- The headline of an analysis of an audit. -/
def headlineOf (audit : Audit) : Part → Option Headline
  | .tagRules => audit.tagRules.result.map fun rules => .ofMessage rules.message
  | .consent => audit.consent.result.map fun coverage => .ofMessage coverage.message
  | .triggerQuality => audit.triggerQuality.result.map fun (_, message) => .ofMessage message
  | .variableQuality => audit.variableQuality.result.map fun (_, message) => .ofMessage message
  | .security => audit.security.result.map Headline.ofSecurity

/-- The report of an audit. -/
def ofAudit (audit : Audit) : Report where
  total := audit.score.total.text
  counts :=
    { tags := toString audit.container.tags.length
      pausedTags := toString (audit.container.tags.countP (·.paused))
      triggers := toString audit.container.triggers.length
      userVariables := toString audit.container.userVariables.length
      issues := toString audit.issues.length }
  unavailable := audit.unavailable
  warnings := audit.warnings
  breakdown := Breakdown.ofScore audit.score.rows
  headline? := headlineOf audit
  steps := audit.plan.map fun action =>
    ⟨action.kind.action, toString action.count, action.kind.description⟩
  replacements := (audit.migration.result.getD []).map fun suggestion =>
    ⟨suggestion.tagName, suggestion.replacementName, suggestion.replacementType⟩
  issues := issueTable (IssueRow.ofIndex audit.index)

end Report

end TagAudit
