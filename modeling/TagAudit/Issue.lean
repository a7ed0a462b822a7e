import TagAudit.Severity
import TagAudit.Json.Basic

/-!
# Issues

An issue is one problem of one entity: what kind of entity it concerns, which category of problem
it is and how serious, with a reason and a suggestion. A record is the textual form in which
issues are indexed and reported; there an issue may belong to several categories.
-/

namespace TagAudit

/-- The entities of a container that an issue can concern. -/
inductive EntityKind
  | tag
  | trigger
  | variable
  deriving DecidableEq, Repr, Inhabited

/-- The name of an entity kind. -/
def EntityKind.name : EntityKind → String
  | tag => "tag"
  | trigger => "trigger"
  | «variable» => "variable"

/-- Problems that the configuration of a variable can have. -/
inductive VariableFault
  | missingFallback
  | lookupWithoutDefault
  | malformedRegex
  | fragileSelector
  | unsafeCode
  deriving DecidableEq, Repr, Inhabited

namespace VariableFault

/-- All faults, in the order in which they are counted. -/
def all : List VariableFault :=
  [missingFallback, lookupWithoutDefault, malformedRegex, fragileSelector, unsafeCode]

/-- The name of a fault. -/
def name : VariableFault → String
  | missingFallback => "dlv_missing_fallback"
  | lookupWithoutDefault => "lookup_without_default"
  | malformedRegex => "regex_malformed"
  | fragileSelector => "css_fragile_selectors"
  | unsafeCode => "js_unsafe_code"

end VariableFault

/-- The categories of problems. -/
inductive Category
  | paused
  | uaObsolete
  | naming
  | noTrigger
  | danglingTrigger
  | doublePageview
  | consentMissing
  | triggerAllPages
  | triggerTiming
  | triggerUnused
  | triggerDuplicate
  | triggerBlocking
  | variableFault (fault : VariableFault)
  | variableUnused
  | variableDuplicate
  | htmlSecurity (severity : Severity)
  | unresolvedReference
  deriving DecidableEq, Repr, Inhabited

/-- The name of a category. -/
def Category.name : Category → String
  | paused => "paused"
  | uaObsolete => "ua_obsolete"
  | naming => "naming"
  | noTrigger => "no_trigger"
  | danglingTrigger => "dangling_trigger"
  | doublePageview => "double_pageview"
  | consentMissing => "consent_missing"
  | triggerAllPages => "trigger_all_pages"
  | triggerTiming => "trigger_timing"
  | triggerUnused => "trigger_unused"
  | triggerDuplicate => "trigger_duplicate"
  | triggerBlocking => "trigger_blocking"
  | variableFault fault => fault.name
  | variableUnused => "variable_unused"
  | variableDuplicate => "variable_duplicate"
  | htmlSecurity .critical => "html_security_critical"
  | htmlSecurity .major => "html_security_major"
  | htmlSecurity .minor => "html_security_minor"
  | unresolvedReference => "unresolved_reference"

/-- One problem of one entity. -/
structure Issue where
  kind : EntityKind
  entityId : String
  entityName : String
  category : Category
  severity : Severity
  reason : String
  suggestion : String
  /-- Further facts about the problem, by name. -/
  facts : List (String × Json) := []
  deriving DecidableEq, Repr

/-- The textual form of an issue. -/
structure IssueRecord where
  entityId : String
  entityType : String
  name : String
  categories : List String
  severity : String
  reason : String
  suggestion : Option String
  facts : List (String × Json)
  deriving DecidableEq, Repr

/-- The record of an issue. -/
def Issue.toRecord (issue : Issue) : IssueRecord where
  entityId := issue.entityId
  entityType := issue.kind.name
  name := issue.entityName
  categories := [issue.category.name]
  severity := issue.severity.name
  reason := issue.reason
  suggestion := some issue.suggestion
  facts := issue.facts

/-- A record as a value; a missing suggestion and empty facts are left out. -/
def IssueRecord.toJson (record : IssueRecord) : Json :=
  .object <|
    [("entity_id", .string record.entityId), ("entity_type", .string record.entityType),
      ("name", .string record.name), ("categories", .strings record.categories),
      ("severity", .string record.severity), ("reason", .string record.reason)] ++
    (record.suggestion.map fun text => ("suggestion", Json.string text)).toList ++
    (if record.facts.isEmpty then [] else [("meta", .object record.facts)])

/-- An issue as a value. -/
def Issue.toJson (issue : Issue) : Json := issue.toRecord.toJson

/-- The headline that an analysis gives its findings. -/
structure StatusMessage where
  status : Status
  title : String
  summary : String
  /-- What the reader is asked to do. -/
  callToAction : String
  deriving DecidableEq, Repr

/-- A headline as a value. -/
def StatusMessage.toJson (message : StatusMessage) : Json :=
  .object [("status", .string message.status.name), ("title", .string message.title),
    ("summary", .string message.summary), ("cta", .string message.callToAction)]

end TagAudit
