import TagAudit.Container.Tag
import TagAudit.Container.Trigger
import TagAudit.Container.Variable
import TagAudit.Issue
import TagAudit.Log

/-!
# Containers

A container holds tags, triggers, variables and the names of enabled built-in variables. It is
read from an export or from a bare container version; entries that are no objects are passed over
and reported in the log, and keep their place in the count of positions.
-/

namespace TagAudit

/-- The contents of a container. -/
structure Container where
  tags : List Tag := []
  triggers : List Trigger := []
  userVariables : List Variable := []
  builtinNames : List String := []
  deriving DecidableEq, Repr, Inhabited

namespace Container

/-- The sections that are read, in their order. -/
def sections : List String := ["tag", "trigger", "variable", "builtInVariable"]

/-- The objects of a section with their positions in it. -/
def entries (version : Json) (sectionName : String) : List (Json × Nat) :=
  (version.get sectionName).items.zipIdx.filter (·.1.isObject)

/-- What the log says about a section: that it is no list, or which of its entries are no
objects. -/
def entryWarnings (version : Json) (sectionName : String) : List LogRecord :=
  let warn (message : String) : LogRecord := ⟨.warning, "gtm_container", message⟩
  match version.get sectionName with
  | .null => []
  | .array items =>
    (items.zipIdx.filter (!·.1.isObject)).map fun (_, position) =>
      warn s!"Skipping malformed {sectionName} entry at position {position}"
  | _ => [warn s!"Section '{sectionName}' is not a list, treating it as empty"]

/-- The container version of a full export, or the object itself. -/
def version (data : Json) : Json :=
  let inner := data.get "containerVersion"
  if inner.isObject then inner else data

/-- The container of a version. -/
def ofVersion (version : Json) : Container where
  tags := (entries version "tag").map fun (raw, position) => .ofJson raw position
  triggers := (entries version "trigger").map fun (raw, position) => .ofJson raw position
  userVariables := (entries version "variable").map fun (raw, position) => .ofJson raw position
  builtinNames := (entries version "builtInVariable").filterMap fun (raw, _) =>
    (raw.get "name").string?

/-- Data of another type than an object is no container. -/
inductive FormatError
  | notAnObject (data : Json)
  deriving DecidableEq, Repr

/-- The words for the type of a value. -/
def typeName : Json → String
  | .null => "NoneType"
  | .bool _ => "bool"
  | .number (.int _) => "int"
  | .number (.float _) => "float"
  | .string _ => "str"
  | .array _ => "list"
  | .object _ => "dict"

/-- The words for a format error. -/
def FormatError.message : FormatError → String
  | notAnObject data => s!"Expected a JSON object, got {typeName data}"

/-- The container of an export; null is an empty one. -/
def ofExport : Json → Except FormatError Container
  | .null => .ok {}
  | .object members => .ok (ofVersion (version (.object members)))
  | data => .error (.notAnObject data)

/-- What the log says about the entries of an export. -/
def exportWarnings : Json → List LogRecord
  | .object members => sections.flatMap (entryWarnings (version (.object members)))
  | _ => []

/-- The last trigger with an identifier. -/
def trigger? (container : Container) (id : String) : Option Trigger :=
  container.triggers.reverse.find? (·.id == id)

/-- The identifiers of the triggers, each once, in the order of their first triggers. -/
def triggerIds (container : Container) : List String :=
  (container.triggers.map (·.id)).eraseDups

/-- The identifiers and names of the entities of a kind. -/
def entities (container : Container) : EntityKind → List (String × String)
  | .tag => container.tags.map fun tag => (tag.id, tag.name)
  | .trigger => container.triggers.map fun trigger => (trigger.id, trigger.name)
  | .variable => container.userVariables.map fun v => (v.id, v.name)

/-- The exported objects of the entities of a kind. -/
def raws (container : Container) : EntityKind → List Json
  | .tag => container.tags.map (·.raw)
  | .trigger => container.triggers.map (·.raw)
  | .variable => container.userVariables.map (·.raw)

end Container

end TagAudit
