import TagAudit.Config.Basic
import TagAudit.Container.Basic
import TagAudit.Score.Weighted
import TagAudit.Taxonomy.Marketing
import TagAudit.Taxonomy.Role
import TagAudit.Triggers.Duplicate

/-!
# Quality of triggers

Triggers that fire on every page, at a bad time, never, twice over, or that block marketing tags
in the wrong way; the scores of these aspects and of the support for pages that change without
loading.
-/

namespace TagAudit

/-- A tag that a trigger blocks, and why it should not. -/
structure Blocking where
  triggerId : String
  tagId : String
  reason : String
  deriving DecidableEq, Repr

/-- The quality of the triggers of a container. -/
structure TriggerQuality where
  total : Nat
  unused : Nat
  onAllPages : Nat
  badlyTimed : Nat
  duplicateGroups : List (List String)
  /-- The triggers that duplicate another one, with that one. -/
  duplicates : List (String × String)
  /-- The triggers that block tags in the wrong way. -/
  blockings : List Blocking
  /-- The number of triggers that block advertising tags. -/
  blockingMarketing : Nat
  historyChange : Bool
  issues : List Issue
  deriving DecidableEq, Repr

namespace TriggerQuality

/-- How well the timing of a trigger suits its tags. -/
inductive Timing
  | good
  | ok
  | bad
  deriving DecidableEq, Repr

/-- The name of a timing. -/
def Timing.name : Timing → String
  | good => "good"
  | ok => "ok"
  | bad => "bad"

/-- The timing of a trigger that fires some tags: only core tags should fire with the page view,
and only tags that watch the user should wait for the whole page. -/
def timing (trigger : Trigger) (tags : List Tag) : Timing :=
  if trigger.family = "PAGEVIEW" then if tags.any (!·.isCore) then .bad else .ok
  else if trigger.family = "WINDOW_LOADED" then
    if tags.any (!·.isUserExperience) then .bad else .ok
  else if trigger.family = "DOM_READY" then .good
  else .ok

/-- The tags that a trigger fires, each as often as it names the trigger. -/
def tagsFiredBy (container : Container) (id : String) : List Tag :=
  container.tags.flatMap fun tag => (tag.firingTriggerIds.filter (· == id)).map fun _ => tag

/-- The tags whose blocking triggers are reviewed. -/
def reviewedTags (container : Container) : List Tag :=
  container.tags.filter fun tag =>
    !tag.blockingTriggerIds.isEmpty && Marketing.isAdPlatform tag

/-- Why a trigger should not block a tag, if so. -/
def blockingReason? (container : Container) (tag : Tag) (id : String) :
    Except AnalysisError (Option String) :=
  if tag.firingTriggerIds.contains id then .ok (some "also fires the same tag")
  else match container.trigger? id with
    | none => .ok none
    | some trigger =>
      if TriggerFamily.pageLoads.contains trigger.family then
        (Condition.holdEverywhere trigger.conditions).map fun everywhere =>
          if everywhere then some "blocks every page load" else none
      else .ok none

/-- The wrong blockings of a tag. -/
def blockingsOfTag (container : Container) (tag : Tag) : Except AnalysisError (List Blocking) :=
  (tag.blockingTriggerIds.mapM fun id =>
    (blockingReason? container tag id).map fun reason =>
      (reason.map fun text => (⟨id, tag.id, text⟩ : Blocking)).toList).map List.flatten

/-- The wrong blockings of a container. -/
def wrongBlockings (container : Container) : Except AnalysisError (List Blocking) :=
  ((reviewedTags container).mapM (blockingsOfTag container)).map List.flatten

/-- An issue of a trigger. -/
def triggerIssue (trigger : Trigger) (category : Category) (severity : Severity)
    (reason suggestion : String) (facts : List (String × Json)) : Issue :=
  ⟨.trigger, trigger.id, trigger.name, category, severity, reason, suggestion, facts⟩

/-- The issue of a trigger that fires on every page. -/
def allPagesIssue (container : Container) (trigger : Trigger) : Issue :=
  let others := ((tagsFiredBy container trigger.id).filter (!·.isCore)).map (·.id)
  let used := !others.isEmpty
  triggerIssue trigger .triggerAllPages (if used then .major else .minor)
    ("All Pages trigger without filters" ++ if used then " used by non-core tags" else "")
    "Add a hostname/path filter or move the tags to DOM Ready"
    [("used_by_tag_ids", .strings others)]

/-- The issue of a trigger with a bad timing. -/
def timingIssue (trigger : Trigger) : Issue :=
  triggerIssue trigger .triggerTiming .minor
    s!"{trigger.family} timing is not optimal for the tags it fires"
    "Consider DOM Ready, or check the tags really need this timing" []

/-- The issue of a trigger that nothing refers to. -/
def unusedIssue (trigger : Trigger) : Issue :=
  triggerIssue trigger .triggerUnused .minor "Trigger is not used by any tag"
    "Remove it if it is no longer needed" []

/-- The issue of a duplicate. -/
def duplicateIssue (trigger : Trigger) (first : String) : Issue :=
  triggerIssue trigger .triggerDuplicate .minor
    s!"Same type and conditions as trigger {first}"
    "Merge the duplicates into a single trigger" [("duplicate_of", .string first)]

/-- The issue of a trigger that blocks tags in the wrong way. -/
def blockingIssue (trigger : Trigger) (blockings : List Blocking) : Issue :=
  triggerIssue trigger .triggerBlocking .major
    ("Blocking trigger on marketing tags " ++ "; ".intercalate
      (blockings.map fun blocking => s!"{blocking.tagId}: {blocking.reason}"))
    "Use a blocking trigger scoped to the pages or consent state to exclude"
    [("tag_ids", .strings (blockings.map (·.tagId)))]

/-- Has the trigger a bad timing for the tags it fires? -/
def isBadlyTimed (container : Container) (trigger : Trigger) : Bool :=
  timing trigger (tagsFiredBy container trigger.id) == .bad

/-- The issues of a trigger, in the order of the rules, given whether it fires on every page, the
trigger identifiers that are referred to, the duplicates and the wrong blockings. -/
def issuesOfTrigger (container : Container) (referenced : List String)
    (duplicates : List (String × String)) (blockings : List Blocking) (trigger : Trigger)
    (onAllPages : Bool) : List Issue :=
  let wrong := blockings.filter (·.triggerId == trigger.id)
  (if onAllPages then [allPagesIssue container trigger] else []) ++
  (if isBadlyTimed container trigger then [timingIssue trigger] else []) ++
  (if referenced.contains trigger.id then [] else [unusedIssue trigger]) ++
  ((firstOf? duplicates trigger.id).map (duplicateIssue trigger)).toList ++
  (if wrong.isEmpty then [] else [blockingIssue trigger wrong])

/-- The quality of the triggers of a container of which the `referenced` ones are used. -/
def ofContainer (container : Container) (referenced : List String) :
    Except AnalysisError TriggerQuality := do
  let triggers := container.triggers
  let blockings ← wrongBlockings container
  let groups := Trigger.duplicateGroups triggers
  let duplicates := groups.flatMap duplicatesIn
  let judged ← triggers.mapM fun trigger => trigger.firesOnAllPages.map (trigger, ·)
  return {
    total := triggers.length
    unused := triggers.countP fun trigger => !referenced.contains trigger.id
    onAllPages := judged.countP (·.2)
    badlyTimed := triggers.countP (isBadlyTimed container)
    duplicateGroups := groups
    duplicates
    blockings
    blockingMarketing :=
      ((reviewedTags container).flatMap (·.blockingTriggerIds)).eraseDups.length
    historyChange := triggers.any (·.family == "HISTORY_CHANGE")
    issues := judged.flatMap fun (trigger, onAllPages) =>
      issuesOfTrigger container referenced duplicates blockings trigger onAllPages }

/-- The number of duplicates. -/
def duplicateTotal (quality : TriggerQuality) : Nat := duplicateCount quality.duplicates

/-- The number of triggers that block in the wrong way. -/
def wrongBlockers (quality : TriggerQuality) : Nat :=
  (quality.blockings.map (·.triggerId)).eraseDups.length

section Scores

variable {α : Type} [Scalar α]

/-- The score of an aspect. -/
def aspectScore (quality : TriggerQuality) (config : Config) : TriggerAspect → α
  | .specificity => Score.shareLeft quality.onAllPages (max quality.total 1)
  | .blocking => Score.shareLeft quality.wrongBlockers (max quality.total 1)
  | .timing => Score.shareLeft quality.badlyTimed (max quality.total 1)
  | .spa =>
    if quality.total = 0 ∨ quality.historyChange then Scalar.decimal 1 0
    else Scalar.ofNumber (config.spaPenaltyScore.number?.getD (.int 0))
  | .hygiene =>
    Score.shareLeft (quality.unused + quality.duplicateTotal) (max quality.total 1)

/-- The weighted mean of the aspects. -/
def score (quality : TriggerQuality) (config : Config) : α :=
  Score.weightedMean (TriggerAspect.all.map fun aspect =>
    (Scalar.ofNumber (config.triggerWeights aspect), quality.aspectScore config aspect))

end Scores

/-- The score of an aspect as a value; the configured penalty is shown as it was given. -/
def aspectJson (quality : TriggerQuality) (config : Config) (aspect : TriggerAspect) : Json :=
  if aspect = .spa ∧ quality.total ≠ 0 ∧ ¬ quality.historyChange then config.spaPenaltyScore
  else .number (quality.aspectScore config aspect)

/-- The headline of the quality. -/
def message (quality : TriggerQuality) (config : Config) :
    Except AnalysisError StatusMessage := do
  let status ← Score.status (quality.score config) config.statusThresholds
  return ⟨status, "Trigger quality",
    if quality.total = 0 then "No triggers in the container"
    else s!"{quality.onAllPages} unfiltered All Pages, {quality.unused} unused, " ++
      s!"{quality.duplicateTotal} duplicate triggers",
    if status.isSome then "Optimize triggers" else "Trigger configuration looks good"⟩

/-- The quality as a value. -/
def toJson (quality : TriggerQuality) (config : Config) : Json :=
  .object [("score", .number (quality.score config)),
    ("breakdown", Config.tableJson TriggerAspect.all (·.key) (quality.aspectJson config)),
    ("stats", .object [("total_triggers", .nat quality.total),
      ("unused_triggers", .nat quality.unused),
      ("all_pages_unfiltered", .nat quality.onAllPages),
      ("duplicates", .nat quality.duplicateTotal),
      ("duplicate_groups", .array (quality.duplicateGroups.map Trigger.duplicateGroupJson)),
      ("history_change_present", .bool quality.historyChange),
      ("with_blocking_on_marketing", .nat quality.blockingMarketing)]),
    ("issues", .array (quality.issues.map Issue.toJson))]

/-- What the log says about the quality. -/
def log (quality : TriggerQuality) (config : Config) : List LogRecord :=
  let score : Number := quality.score config
  [⟨.debug, "gtm_trigger_quality", s!"Trigger quality: {quality.total} triggers, " ++
    s!"score {score.toBinary64.fixedText 3}"⟩]

end TriggerQuality

end TagAudit
