import TagAudit.Naming
import TagAudit.Tags.PageView
import TagAudit.Taxonomy.Builtin

/-!
# Rules for tags and names

Paused, obsolete, untriggered and badly named tags, references to triggers that do not exist,
doubled page views, and the names of triggers and variables. A tag with no issue is clean.
-/

namespace TagAudit

/-- The outcome of the rules for tags and names. -/
structure TagRules where
  total : Nat
  paused : Nat
  obsolete : Nat
  badlyNamed : Nat
  untriggered : Nat
  dangling : Nat
  clean : Nat
  doublePageView : DoublePageView
  tagIssues : List Issue
  triggerNaming : List Issue
  variableNaming : List Issue
  deriving DecidableEq, Repr

namespace TagRules

/-- The trigger identifiers of a tag that neither the container nor the built-in triggers have. -/
def danglingIds (container : Container) (tag : Tag) : List String :=
  let known := container.triggers.map (·.id)
  (tag.firingTriggerIds ++ tag.blockingTriggerIds).filter fun id =>
    !known.contains id && !Builtin.isTriggerId id

/-- An issue of a tag. -/
def tagIssue (tag : Tag) (category : Category) (severity : Severity) (reason suggestion : String)
    (facts : List (String × Json)) : Issue :=
  ⟨.tag, tag.id, tag.name, category, severity, reason, suggestion, facts⟩

/-- The issue of a name that breaks naming rules. -/
def namingIssue? (config : Config) (kind : EntityKind) (entity : String × String) :
    Option Issue :=
  let (id, name) := entity
  let violations := Naming.violations config name
  if violations.isEmpty then none
  else some ⟨kind, id, name, .naming, .minor,
    s!"Name '{name}' " ++ "; ".intercalate violations, Naming.suggestion name,
    [("violations", .strings violations)]⟩

/-- The issue, where there is reason for it. -/
def issueIf (applies : Bool) (issue : Issue) : List Issue := if applies then [issue] else []

/-- The issues of a tag, in the order of the rules. -/
def issuesOfTag (config : Config) (container : Container) (double : DoublePageView) (tag : Tag) :
    List Issue :=
  let dangling := danglingIds container tag
  issueIf tag.paused (tagIssue tag .paused .minor "Tag is paused"
    "Remove the tag if it is no longer needed" []) ++
  issueIf tag.isUniversalAnalytics (tagIssue tag .uaObsolete .major
    "Universal Analytics stopped processing data; this tag is obsolete"
    "Migrate the tag to a GA4 event or Google tag" []) ++
  (namingIssue? config .tag (tag.id, tag.name)).toList ++
  issueIf tag.firingTriggerIds.isEmpty (tagIssue tag .noTrigger .major
    "Tag has no firing trigger and never fires"
    "Attach a firing trigger or delete the tag" []) ++
  issueIf (!dangling.isEmpty) (tagIssue tag .danglingTrigger .major
    ("References trigger id(s) not in the container: " ++ ", ".intercalate dangling)
    "Remove or replace the missing trigger references" [("trigger_ids", .strings dangling)]) ++
  issueIf ((double.flagged.map (·.id)).contains tag.id) (tagIssue tag .doublePageview .critical
    "Manual page_view fires alongside a GA4 configuration that already sends page_view"
    double.action [("shared_triggers", .strings double.sharedTriggers)])

/-- The outcome for a container. -/
def ofContainer (config : Config) (container : Container) : TagRules :=
  let double := DoublePageView.ofContainer container
  let issues := issuesOfTag config container double
  { total := container.tags.length
    paused := container.tags.countP (·.paused)
    obsolete := container.tags.countP (·.isUniversalAnalytics)
    badlyNamed := container.tags.countP fun tag => !(Naming.faults config tag.name).isEmpty
    untriggered := container.tags.countP (·.firingTriggerIds.isEmpty)
    dangling := container.tags.countP fun tag => !(danglingIds container tag).isEmpty
    clean := container.tags.countP fun tag => (issues tag).isEmpty
    doublePageView := double
    tagIssues := container.tags.flatMap issues
    triggerNaming := (container.entities .trigger).filterMap (namingIssue? config .trigger)
    variableNaming := (container.entities .variable).filterMap (namingIssue? config .variable) }

/-- All issues: those of tags, then the names of triggers and of variables. -/
def issues (rules : TagRules) : List Issue :=
  rules.tagIssues ++ (rules.triggerNaming ++ rules.variableNaming)

/-- The number of badly named triggers and variables. -/
def otherBadNames (rules : TagRules) : Nat :=
  rules.triggerNaming.length + rules.variableNaming.length

/-- The number of badly named entities. -/
def allBadNames (rules : TagRules) : Nat :=
  rules.badlyNamed + rules.triggerNaming.length + rules.variableNaming.length

/-- The severity of the worst rule that is broken. -/
def status (rules : TagRules) : Status :=
  if rules.doublePageView.detected then some .critical
  else if rules.obsolete ≠ 0 ∨ rules.untriggered ≠ 0 ∨ rules.dangling ≠ 0 then some .major
  else if rules.total - rules.clean ≠ 0 ∨ rules.allBadNames ≠ 0 then some .minor
  else none

/-- The headline of the outcome. -/
def message (rules : TagRules) : StatusMessage where
  status := rules.status
  title := "Tags"
  summary :=
    (if rules.total = 0 then "No tags in the container"
      else s!"{rules.total - rules.clean} of {rules.total} tags have lifecycle or naming issues") ++
    (if rules.otherBadNames = 0 then ""
      else s!", {rules.otherBadNames} trigger/variable names break the naming rules")
  callToAction := if rules.status.isSome then "Review tags" else "Tags look healthy"

/-- The names of the entities with naming issues among some issues. -/
def badNames (issues : List Issue) : Json :=
  .strings ((issues.filter (·.category == .naming)).map (·.entityName))

/-- The outcome as a value. -/
def toJson (rules : TagRules) : Json :=
  .object [
    ("stats", .object [("total", .nat rules.total), ("paused", .nat rules.paused),
      ("ua_obsolete", .nat rules.obsolete), ("naming", .nat rules.badlyNamed),
      ("no_trigger", .nat rules.untriggered), ("dangling_trigger", .nat rules.dangling),
      ("clean", .nat rules.clean), ("naming_triggers", .nat rules.triggerNaming.length),
      ("naming_variables", .nat rules.variableNaming.length)]),
    ("double_page_view", rules.doublePageView.toJson),
    ("bad_names", .object [("tags", badNames rules.tagIssues),
      ("triggers", badNames rules.triggerNaming),
      ("variables", badNames rules.variableNaming)]),
    ("issues", .array (rules.issues.map Issue.toJson))]

/-- What the log says about the outcome. -/
def log (rules : TagRules) : List LogRecord :=
  [⟨.debug, "gtm_tag_rules", s!"Tag rules: {rules.total} tags, {rules.clean} clean"⟩]

end TagRules

end TagAudit
