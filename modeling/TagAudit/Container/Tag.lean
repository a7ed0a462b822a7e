import TagAudit.Container.Field

/-!
# Tags

A tag runs on the triggers it names and not on the triggers that block it. Its script stands in a
field or a parameter of its own.
-/

namespace TagAudit

/-- A tag of a container. -/
structure Tag where
  id : String
  name : String
  type : String
  paused : Bool
  parameters : List Json
  firingTriggerIds : List String
  blockingTriggerIds : List String
  /-- The exported object. -/
  raw : Json
  deriving DecidableEq, Repr

namespace Tag

/-- The tag of an exported object at a position of its section. -/
def ofJson (raw : Json) (position : Nat) : Tag where
  id := Field.entityId raw "tagId" "tag" position
  name := (raw.get "name").text
  type := (raw.get "type").text
  paused := Field.isTrue raw "paused"
  parameters := (raw.get "parameter").items
  firingTriggerIds := Field.idTexts (raw.get "firingTriggerId")
  blockingTriggerIds := Field.idTexts (raw.get "blockingTriggerId")
  raw := raw

/-- What the first parameter of a key holds, null where there is none. -/
def parameter (tag : Tag) (key : String) : Json := Field.parameter tag.parameters key

/-- The type in lower case. -/
def kind (tag : Tag) : String := tag.type.lowered

/-- The inline script. -/
def html (tag : Tag) : String :=
  let own := (tag.raw.get "html").text
  if own.isEmpty then (tag.parameter "html").text else own

/-- The consent settings, where they are an object. -/
def consentSettings? (tag : Tag) : Option Json :=
  (tag.raw.get? "consentSettings").filter Json.isObject

/-- Is this a tag of a script of its own? -/
def isCustomHtml (tag : Tag) : Bool := tag.kind == "html"

end Tag

end TagAudit
