import TagAudit.Report.Basic

/-!
# Reading reports

A report is also read from the value of an audit, such as one kept in a file. The score and what a
headline, an action, a replacement or an issue consists of must be present; everything else may be
left out. The parts are read in the order in which they are shown, so the first fault is the one
that showing the report would meet first.
-/

namespace TagAudit.Report

/-- The key of the value of an analysis. -/
def Part.key : Part → String
  | tagRules => "tag_rules"
  | consent => "consent_mode"
  | triggerQuality => "trigger_quality"
  | variableQuality => "variable_quality"
  | security => "html_security"

/-- The numbers of entities and issues; one that is left out is zero. -/
def Counts.ofJson (value : Json) : Except Fault Counts := do
  let count (key : String) : Except Fault String := do
    return ((← optional? value key).map Json.display).getD "0"
  return ⟨← count "tags", ← count "paused_tags", ← count "triggers", ← count "variables",
    ← count "issues"⟩

/-- The warnings in the value of an audit. -/
def warningsOf (audit : Json) : Except Fault (List String) := do
  let warnings := (← optional? audit "warnings").getD (.array [])
  return (← itemsOf warnings).map Json.display

/-- The breakdown of the score in the value of an audit. -/
def breakdownOf (audit : Json) : Except Fault (List Column) := do
  let score := (← optional? audit "quality_score").getD (.object [])
  Breakdown.ofJson ((← optional? score "breakdown").getD .null)

/-- The headline of an analysis. -/
def Headline.ofJson (part : Part) (value : Json) : Except Fault Headline := do
  let message ← required value "message"
  let headline : Headline :=
    { style := ← StatusStyle.ofStatus (← required message "status")
      summary := ← requiredText message "summary"
      callToAction := ← requiredText message "cta" }
  if part ≠ .security then return headline
  let security ← required value "html_security"
  return { headline with
    thirdParties := ← namesOf (← required security "third_parties")
    findings := ← TypeCount.ofDetails (← required security "details") }

/-- The headlines of the analyses that have a result. -/
def headlinesOf (audit : Json) : Except Fault (List (Part × Headline)) :=
  (Part.all.filter fun part => audit.get part.key != .null).mapM fun part =>
    (Headline.ofJson part (audit.get part.key)).map (part, ·)

/-- An action that is asked for. -/
def Step.ofJson (value : Json) : Except Fault Step :=
  return ⟨← requiredText value "action", ← requiredText value "count",
    ← requiredText value "description"⟩

/-- A suggested replacement. -/
def Replacement.ofJson (value : Json) : Except Fault Replacement :=
  return ⟨← requiredText value "ua_tag_name", ← requiredText value "suggested_ga4_name",
    ← requiredText value "ga4_type"⟩

/-- The table of issues in the value of an audit. -/
def issuesOf (audit : Json) : Except Fault (List IssueRow) := do
  return issueTable (← IssueRow.ofJson audit)

/-- The report that the value of an audit makes. -/
def ofJson (audit : Json) : Except Fault Report := do
  let total ← requiredText (← required audit "quality_score") "total"
  let counts ← Counts.ofJson ((audit.get? "counts").getD (.object []))
  let unavailable ← namesOf (audit.get "unavailable")
  let warnings ← warningsOf audit
  let breakdown ← breakdownOf audit
  let headlines ← headlinesOf audit
  let steps ← (← itemsIfAny (audit.get "action_plan")).mapM Step.ofJson
  let replacements ← (← itemsIfAny (audit.get "migration_suggestions")).mapM Replacement.ofJson
  let issues ← issuesOf audit
  let headline? := fun part => headlines.lookup part
  return { total, counts, unavailable, warnings, breakdown, headline?, steps, replacements, issues }

end TagAudit.Report
