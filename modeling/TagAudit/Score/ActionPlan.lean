import TagAudit.Json.Basic

/-!
# Action plan

What to do about the problems of a container, the most urgent first. Problems that do not occur
need no action.
-/

namespace TagAudit

/-- The kinds of actions. -/
inductive ActionKind
  | doublePageview
  | consentMode
  | htmlSecurity
  | triggerQuality
  | variableQuality
  | uaObsolete
  | paused
  | unused
  | naming
  deriving DecidableEq, Repr, Inhabited

namespace ActionKind

/-- All kinds of actions, the most urgent first. -/
def all : List ActionKind :=
  [doublePageview, consentMode, htmlSecurity, triggerQuality, variableQuality, uaObsolete, paused,
    unused, naming]

/-- The key of a kind. -/
def key : ActionKind → String
  | doublePageview => "double_pageview"
  | consentMode => "consent_mode"
  | htmlSecurity => "html_security"
  | triggerQuality => "trigger_quality"
  | variableQuality => "variable_quality"
  | uaObsolete => "ua_obsolete"
  | paused => "paused"
  | unused => "unused"
  | naming => "naming"

/-- The priority of a kind, less being more urgent. -/
def priority : ActionKind → Number
  | doublePageview => .int 0
  | consentMode => .int 1
  | htmlSecurity => .decimal 15 (-1)
  | triggerQuality => .int 2
  | variableQuality => .decimal 25 (-1)
  | uaObsolete => .int 3
  | paused => .int 4
  | unused => .int 5
  | naming => .int 6

/-- What is to be done. -/
def action : ActionKind → String
  | doublePageview => "Fix double page_view"
  | consentMode => "Configure Consent Mode"
  | htmlSecurity => "Review Custom HTML security"
  | triggerQuality => "Optimize triggers"
  | variableQuality => "Optimize variables"
  | uaObsolete => "Migrate to GA4"
  | paused => "Consider removing paused tags"
  | unused => "Delete unused elements"
  | naming => "Standardize names"

/-- Why it is to be done. -/
def description : ActionKind → String
  | doublePageview => "Double page_view detected, GA4 data is duplicated"
  | consentMode => "Marketing tags without complete consent settings, compliance risk"
  | htmlSecurity => "Custom HTML tags with security problems"
  | triggerQuality => "Triggers with configuration problems, performance impact"
  | variableQuality => "Variables with configuration problems, reliability impact"
  | uaObsolete => "Universal Analytics is obsolete and must be migrated to GA4"
  | paused => "Paused tags weigh down the container"
  | unused => "Unused triggers and variables add noise"
  | naming => "Inconsistent names make maintenance harder"

/-- What it brings, in points of the score. -/
def impact : ActionKind → Nat
  | doublePageview => 10
  | consentMode | htmlSecurity => 8
  | triggerQuality => 6
  | variableQuality | uaObsolete => 5
  | unused => 3
  | paused => 2
  | naming => 1

end ActionKind

/-- An action for a number of problems. -/
structure Action where
  kind : ActionKind
  count : Int
  deriving DecidableEq, Repr

namespace Action

/-- The actions for the numbers of problems of each kind, the most urgent first. -/
def plan (counts : ActionKind → Int) : List Action :=
  (ActionKind.all.filter (counts · ≠ 0)).map fun kind => ⟨kind, counts kind⟩

/-- An action as a value. -/
def toJson (action : Action) : Json :=
  .object [("type", .string action.kind.key), ("priority", .number action.kind.priority),
    ("count", .number (.int action.count)), ("action", .string action.kind.action),
    ("description", .string action.kind.description), ("impact", .nat action.kind.impact)]

end Action

end TagAudit
