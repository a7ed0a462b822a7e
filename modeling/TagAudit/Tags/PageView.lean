import TagAudit.Container.Basic
import TagAudit.Taxonomy.Role

/-!
# Doubled page views

A configuration tag sends a page view of its own unless told not to. A tag that sends one by hand
doubles it when both fire on one trigger, or when the manual tag fires on changes of the browser
history.
-/

namespace TagAudit

namespace Tag

/-- The types of configuration tags. -/
def configurationTypes : List String := ["gaawc", "ga4_config", "gtag", "googtag"]

/-- Is this a configuration tag? One of the script kind must contain the configuration call; a tag
of another type counts if it has the parameters of one and no event. -/
def isConfiguration (tag : Tag) : Bool :=
  if configurationTypes.contains tag.kind then
    !(tag.kind == "gtag" && !tag.html.isEmpty) ||
      tag.html.hasText "gtag('config'" || tag.html.hasText "gtag(\"config\""
  else
    (tag.parameter "send_page_view" != .null || tag.parameter "measurement_id" != .null) &&
      tag.parameter "eventName" == .null

/-- The setting for page views, under either of its names. -/
def pageViewSetting (tag : Tag) : Json :=
  let setting := tag.parameter "send_page_view"
  if setting == .null then tag.parameter "sendPageView" else setting

/-- Is this a configuration tag that sends page views, as it does by default? -/
def configuresPageView (tag : Tag) : Bool :=
  tag.isConfiguration && (tag.pageViewSetting == .null || Field.isTruthy tag.pageViewSetting)

/-- Calls that send a page view by hand. -/
def pageViewSnippets : List String :=
  ["gtag('event','page_view'", "gtag(\"event\",\"page_view\"",
    "gtag('event', 'page_view'", "gtag(\"event\", \"page_view\""]

/-- Does the tag send a page view by hand? -/
def sendsManualPageView (tag : Tag) : Bool :=
  tag.sendsPageViewEvent || (tag.isCustomHtml && pageViewSnippets.any (tag.html.hasText ·))

/-- The firing triggers of a tag that another one fires on too. -/
def firingTriggersShared (tag other : Tag) : List String :=
  tag.firingTriggerIds.filter other.firingTriggerIds.contains

end Tag

/-- The page views of a container that are sent twice. -/
structure DoublePageView where
  /-- Configuration tags that send page views. -/
  configuring : List Tag
  /-- Tags that send page views by hand. -/
  manual : List Tag
  /-- The manual tags that double a page view. -/
  flagged : List Tag
  /-- The triggers on which a configuration tag and a manual tag fire, each once. -/
  sharedTriggers : List String
  /-- Does a manual tag fire on a change of history while a configuration sends page views? -/
  onHistoryChange : Bool
  deriving DecidableEq, Repr

namespace DoublePageView

/-- The identifiers of the triggers that fire on changes of history. -/
def historyTriggerIds (container : Container) : List String :=
  (container.triggers.filter (·.family == "HISTORY_CHANGE")).map (·.id)

/-- Does a tag fire on a change of history? -/
def firesOnHistory (container : Container) (tag : Tag) : Bool :=
  tag.firingTriggerIds.any (historyTriggerIds container).contains

/-- The doubled page views of a container. -/
def ofContainer (container : Container) : DoublePageView :=
  let configuring := container.tags.filter Tag.configuresPageView
  let manual := container.tags.filter Tag.sendsManualPageView
  let onHistory (tag : Tag) : Bool := !configuring.isEmpty && firesOnHistory container tag
  { configuring, manual
    flagged := manual.filter fun tag =>
      configuring.any (fun other => !(other.firingTriggersShared tag).isEmpty) || onHistory tag
    sharedTriggers :=
      (manual.flatMap fun tag => configuring.flatMap (·.firingTriggersShared tag)).eraseDups
    onHistoryChange := manual.any onHistory }

/-- Is any page view doubled? -/
def detected (result : DoublePageView) : Bool := !result.flagged.isEmpty

/-- What to do about doubled page views. -/
def action (result : DoublePageView) : String :=
  if result.detected then
    "Set send_page_view to false on the GA4 configuration and send page_view " ++
      "from a single place (History Change for SPAs)"
  else "No double page_view detected"

/-- A tag with its triggers as a value. -/
def tagJson (tag : Tag) : Json :=
  .object [("id", .string tag.id), ("name", .string tag.name), ("type", .string tag.type),
    ("firing_triggers", .strings tag.firingTriggerIds)]

/-- The result as a value. -/
def toJson (result : DoublePageView) : Json :=
  .object [("status", .string (if result.detected then "critical" else "ok")),
    ("detected", .bool result.detected),
    ("config_tags", .array (result.configuring.map tagJson)),
    ("manual_page_view_tags", .array (result.manual.map tagJson)),
    ("flagged_tag_ids", .strings (result.flagged.map (·.id))),
    ("shared_triggers", .strings result.sharedTriggers),
    ("has_history_change", .bool result.onHistoryChange),
    ("action", .string result.action)]

end DoublePageView

end TagAudit
