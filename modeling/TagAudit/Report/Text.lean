import TagAudit.Report.Basic

/-!
# The text of a report

A report as lines of text: a summary, the breakdown of the score, a section for every analysis,
the plan of actions, suggested replacements and the table of categories.
-/

namespace TagAudit.Report

/-- A line across the page. -/
def rule (c : Char) : String := .ofList (List.replicate 80 c)

/-- The heading of a section. -/
def heading (title : String) : List String := [rule '-', s!"{title}:", rule '-']

/-- Lines under a heading; no lines at all where there are none to show. -/
def headed (title : String) : List String → List String
  | [] => []
  | lines => heading title ++ lines ++ [""]

/-- The summary. -/
def summaryLines (report : Report) : List String :=
  let counts := report.counts
  [s!"  Quality Score: {report.total}/100",
    s!"  Total Tags: {counts.tags} ({counts.pausedTags} paused)",
    s!"  Total Triggers: {counts.triggers}", s!"  Total Variables: {counts.userVariables}",
    s!"  Issues: {counts.issues}"] ++
  (if report.unavailable.isEmpty then []
  else ["  Unavailable Analyses: " ++ ", ".intercalate report.unavailable]) ++
  report.warnings.map fun warning => s!"  WARNING: {warning}"

/-- The breakdown of the score, if there is any. -/
def breakdownLines (report : Report) : List String :=
  if report.breakdown.all (·.cells.isEmpty) then [] else [tableText report.breakdown]

/-- The lines of a headline. -/
def Headline.lines (headline : Headline) : List String :=
  [s!"  {headline.style.icon} {headline.style.label}: {headline.summary}",
    s!"  -> {headline.callToAction}"] ++
    (if headline.thirdParties.isEmpty then []
    else ["  Third parties: " ++ ", ".intercalate headline.thirdParties]) ++
    headline.findings.map fun finding => s!"    - {finding.type.display}: {finding.count}"

/-- The section of an analysis. -/
def sectionLines (report : Report) (part : Part) : List String :=
  headed part.title <|
    match report.headline? part with
    | none => ["  Analysis unavailable (see log for details)"]
    | some headline => headline.lines

/-- The plan of actions, numbered from one. -/
def stepLines (steps : List Step) : List String :=
  steps.mapIdx fun i step => s!"  {i + 1}. {step.action} ({step.count}) - {step.description}"

/-- The suggested replacements. -/
def replacementLines (replacements : List Replacement) : List String :=
  replacements.map fun replacement =>
    s!"  {replacement.tagName} -> {replacement.replacementName} ({replacement.replacementType})"

/-- The table of categories. -/
def categoryLines (issues : List IssueRow) : List String :=
  if (categoryRows issues).isEmpty then ["  No issues found"]
  else [tableText (categoryColumns issues)]

/-- The lines of a report. -/
def lines (report : Report) : List String :=
  [rule '=', "GTM CONTAINER QUALITY REPORT", rule '=', "", "SUMMARY:"] ++ report.summaryLines ++
    [""] ++ heading "SCORE BREAKDOWN" ++ report.breakdownLines ++ [""] ++
    Part.all.flatMap report.sectionLines ++ headed "ACTION PLAN" (stepLines report.steps) ++
    headed "UA -> GA4 MIGRATION" (replacementLines report.replacements) ++
    headed "ISSUES BY CATEGORY" (categoryLines report.issues)

/-- A report as text. -/
def text (report : Report) : String := String.join (report.lines.map (· ++ "\n"))

end TagAudit.Report
