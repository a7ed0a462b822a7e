import TagAudit.Container.Basic
import TagAudit.Script.Finding
import TagAudit.Taxonomy.Builtin

/-!
# Security of scripts

The scripts of a container's script tags, each checked as it fires: the findings in every script,
the hosts that the scripts name, and a score that falls with the number and severity of the tags
with findings.
-/

namespace TagAudit

/-- The findings in the script of a tag. -/
structure ScriptReview where
  tag : Tag
  /-- The family of triggers that the tag fires on. -/
  firesOn : String
  findings : List Script.Finding
  severity : Severity
  deriving DecidableEq, Repr

namespace ScriptReview

/-- The family of the triggers of an identifier, in the container or built in. -/
def family? (container : Container) (id : String) : Option String :=
  ((container.trigger? id).map (·.family)).or (Builtin.triggerFamily? id)

/-- The family that a tag fires on: the first one of page loads among its triggers, or else the
first one. -/
def firingFamily (container : Container) (tag : Tag) : String :=
  let families := (tag.firingTriggerIds.filterMap (family? container)).filter (!·.isEmpty)
  ((families.find? TriggerFamily.pageLoads.contains).or families.head?).getD "UNKNOWN"

/-- The review of a script tag; none where nothing is found. -/
def ofTag? (config : Config) (container : Container) (tag : Tag) :
    Except AnalysisError (Option ScriptReview) :=
  let firesOn := firingFamily container tag
  (Script.scan config firesOn tag.html.toList).map fun findings =>
    (Script.worst findings).map fun severity => { tag, firesOn, findings, severity }

/-- What to do about the findings. -/
def suggestion (review : ScriptReview) : String := Script.suggestions review.findings

/-- The issue of a tag with findings. -/
def issue (review : ScriptReview) : Issue where
  kind := .tag
  entityId := review.tag.id
  entityName := review.tag.name
  category := .htmlSecurity review.severity
  severity := review.severity
  reason := "; ".intercalate (review.findings.map (·.message))
  suggestion := review.suggestion
  facts := [("finding_types", .strings (review.findings.map (·.kind.name)))]

/-- A review as a value. -/
def toJson (review : ScriptReview) : Json :=
  .object [("id", .string review.tag.id), ("name", .string review.tag.name),
    ("severity", .string review.severity.name),
    ("issues", .array (review.findings.map Script.Finding.toJson)),
    ("suggestion", .string review.suggestion), ("fires_on", .string review.firesOn),
    ("paused", .bool review.tag.paused)]

end ScriptReview

/-- The security of the scripts of a container. -/
structure ScriptSecurity where
  /-- The number of script tags. -/
  checked : Nat
  /-- The tags with findings. -/
  reviews : List ScriptReview
  /-- The hosts that scripts name, each once. -/
  thirdParties : List String
  deriving DecidableEq, Repr

namespace ScriptSecurity

/-- The security of the scripts of a container. -/
def ofContainer (config : Config) (container : Container) :
    Except AnalysisError ScriptSecurity :=
  let scriptTags := container.tags.filter (·.kind == "html")
  (scriptTags.mapM (ScriptReview.ofTag? config container)).map fun reviews =>
    { checked := scriptTags.length
      reviews := reviews.filterMap id
      thirdParties := (scriptTags.flatMap fun tag => Script.hosts tag.html.toList).eraseDups }

/-- The number of tags whose worst finding is of a severity. -/
def count (security : ScriptSecurity) (severity : Severity) : Nat :=
  security.reviews.countP (·.severity == severity)

/-- The number of tags with findings of any severity. -/
def flagged (security : ScriptSecurity) : Nat :=
  security.count .critical + security.count .major + security.count .minor

section Scores

variable {α : Type} [Scalar α]

/-- The weighted number of tags with findings. -/
def penalty (security : ScriptSecurity) (config : Config) : α :=
  Scalar.sum (Severity.ascending.map fun severity =>
    Scalar.ofNat (security.count severity) * Scalar.ofNumber (config.htmlSeverityWeights severity))

/-- One less the penalty for each script tag, but not below zero. -/
def score (security : ScriptSecurity) (config : Config) : α :=
  Scalar.atLeast (Scalar.decimal 0 0)
    (Scalar.ofNat 1 - security.penalty config / Scalar.ofNat (max security.checked 1))

end Scores

/-- The issues of the tags with findings. -/
def issues (security : ScriptSecurity) : List Issue := security.reviews.map (·.issue)

/-- The most serious severity that is counted. -/
def status (security : ScriptSecurity) : Status :=
  if security.count .critical ≠ 0 then some .critical
  else if security.count .major ≠ 0 then some .major
  else if security.count .minor ≠ 0 then some .minor
  else none

/-- The headline of the security. -/
def message (security : ScriptSecurity) : StatusMessage :=
  if security.checked = 0 then
    ⟨none, "Custom HTML security", "No Custom HTML tags", "Nothing to review"⟩
  else
    ⟨security.status, "Custom HTML security",
      s!"{security.flagged} of {security.checked} Custom HTML tags flagged " ++
        s!"({security.count .critical} critical, {security.count .major} major, " ++
        s!"{security.count .minor} minor)",
      if security.flagged = 0 then "No risky patterns found" else "Review Custom HTML"⟩

/-- The security as a value. -/
def toJson (security : ScriptSecurity) (config : Config) : Json :=
  .object [("checked", .nat security.checked), ("critical", .nat (security.count .critical)),
    ("major", .nat (security.count .major)), ("minor", .nat (security.count .minor)),
    ("details", .array (security.reviews.map ScriptReview.toJson)),
    ("third_parties", .strings security.thirdParties),
    ("score", .number (security.score config))]

/-- What the log says about the security. -/
def log (security : ScriptSecurity) : List LogRecord :=
  [⟨.debug, "gtm_html_security", s!"HTML security: {security.checked} tags checked, " ++
    s!"{security.count .critical} critical"⟩]

end ScriptSecurity

end TagAudit
