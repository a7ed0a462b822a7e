import TagAudit.Container.Field

/-!
# Triggers

A trigger belongs to a family, whichever way its type is spelled, and fires where its conditions
hold. The members of a trigger group are triggers of their own.
-/

namespace TagAudit

namespace TriggerFamily

/-- Families by their usual spellings, in lower case and without separators. -/
def spellings : List (String × String) :=
  [("pageview", "PAGEVIEW"), ("domready", "DOM_READY"), ("windowloaded", "WINDOW_LOADED"),
    ("historychange", "HISTORY_CHANGE"), ("customevent", "CUSTOM_EVENT"),
    ("linkclick", "LINK_CLICK"), ("click", "CLICK"), ("formsubmit", "FORM_SUBMISSION"),
    ("formsubmission", "FORM_SUBMISSION"), ("elementvisibility", "ELEMENT_VISIBILITY"),
    ("scrolldepth", "SCROLL_DEPTH"), ("youtubevideo", "YOU_TUBE_VIDEO"), ("timer", "TIMER"),
    ("jserror", "JS_ERROR"), ("triggergroup", "TRIGGER_GROUP"), ("init", "INIT"),
    ("consentinit", "CONSENT_INIT")]

/-- The family of a trigger type; an unknown type is a family of its own. -/
def ofType (type : String) : String :=
  let compact := String.ofList (Text.lower (type.toList.filter fun c => c != '_' && c != '-'))
  (spellings.lookup compact).getD type.uppered

/-- The families that fire once per page load. -/
def pageLoads : List String := ["PAGEVIEW", "DOM_READY", "WINDOW_LOADED"]

end TriggerFamily

/-- A trigger of a container. -/
structure Trigger where
  id : String
  name : String
  type : String
  family : String
  paused : Bool
  filters : List Json
  autoEventFilters : List Json
  customEventFilters : List Json
  parameters : List Json
  /-- The exported object. -/
  raw : Json
  deriving DecidableEq, Repr

namespace Trigger

/-- The trigger of an exported object at a position of its section. -/
def ofJson (raw : Json) (position : Nat) : Trigger where
  id := Field.entityId raw "triggerId" "trigger" position
  name := (raw.get "name").text
  type := (raw.get "type").text
  family := TriggerFamily.ofType (raw.get "type").text
  paused := Field.isTrue raw "paused"
  filters := (raw.get "filter").items
  autoEventFilters := (raw.get "autoEventFilter").items
  customEventFilters := (raw.get "customEventFilter").items
  parameters := (raw.get "parameter").items
  raw := raw

/-- What the first parameter of a key holds, null where there is none. -/
def parameter (trigger : Trigger) (key : String) : Json := Field.parameter trigger.parameters key

/-- The conditions of all three kinds. -/
def conditions (trigger : Trigger) : List Json :=
  trigger.filters ++ trigger.autoEventFilters ++ trigger.customEventFilters

/-- The trigger that an item of a group's list names: an object by its value, any other item by
itself. -/
def memberId? (item : Json) : Option String :=
  let value := if item.isObject then item.get "value" else item
  if value.isAbsent then none else some value.display

/-- The members of a trigger group; any other trigger has none. -/
def memberIds (trigger : Trigger) : List String :=
  if trigger.family = "TRIGGER_GROUP" then
    (trigger.parameter "triggerIds").items.filterMap memberId?
  else []

end Trigger

end TagAudit
