/-!
# Built-in triggers and variables

Triggers and variables that every container can use without having an entity for them.
-/

namespace TagAudit.Builtin

/-- The built-in triggers: identifier, name and family. -/
def triggers : List (String × String × String) :=
  [("2147479553", "All Pages", "PAGEVIEW"),
    ("2147479572", "Consent Initialization - All Pages", "CONSENT_INIT"),
    ("2147479573", "Initialization - All Pages", "INIT")]

/-- Is this the identifier of a built-in trigger? -/
def isTriggerId (id : String) : Bool := (triggers.lookup id).isSome

/-- The family of a built-in trigger. -/
def triggerFamily? (id : String) : Option String := (triggers.lookup id).map (·.2)

/-- The names of the built-in variables. -/
def variableNames : List String :=
  ["Event", "Event Name", "Page URL", "Page Hostname", "Page Path", "Referrer",
    "Click Element", "Click Classes", "Click ID", "Click URL", "Click Text", "Click Target",
    "Container ID", "Container Version", "Debug Mode", "Random Number",
    "HTML ID", "Environment Name", "Client Name", "Client ID", "IP Address",
    "User Agent", "Error Message", "Error Line", "Error URL", "Debug Error",
    "Form Element", "Form Classes", "Form ID", "Form Target", "Form URL",
    "Form Text", "History Source", "New History Fragment", "New History State",
    "New History URL", "Old History Fragment", "Old History State",
    "Old History URL", "Video Current Time", "Video Duration", "Video Percent",
    "Video Provider", "Video Status", "Video Title", "Video URL",
    "Video Visible", "Scroll Depth Threshold", "Scroll Depth Units",
    "Scroll Direction", "Element Visibility Ratio", "Element Visibility Time",
    "Element Visibility First Time", "Element Visibility Recent Time",
    "Percent Visible", "On Screen Duration"]

/-- Is this the name of a built-in variable, or one of the `enabled` ones? -/
def isVariableName (name : String) (enabled : List String) : Bool :=
  variableNames.contains name || enabled.contains name

end TagAudit.Builtin
