import TagAudit.Container.Field

/-!
# Variables

A variable is of one of a few kinds that can be checked, told by its template type.
-/

namespace TagAudit

/-- What a variable reads its value from. -/
inductive VariableKind
  | dataLayer
  | lookup
  | regexTable
  | customScript
  | selector
  | constant
  | other
  deriving DecidableEq, Repr, Inhabited

namespace VariableKind

/-- The name of a kind. -/
def name : VariableKind → String
  | dataLayer => "dlv"
  | lookup => "lookup"
  | regexTable => "regex"
  | customScript => "jsm"
  | selector => "css"
  | constant => "constant"
  | other => "other"

/-- Kinds by template type in lower case. -/
def ofTemplate : List (String × VariableKind) :=
  [("v", dataLayer), ("datalayervariable", dataLayer), ("smm", lookup), ("lookup", lookup),
    ("lookuptable", lookup), ("remm", regexTable), ("regex", regexTable), ("jsm", customScript),
    ("js", customScript), ("javascript", customScript), ("css", selector), ("dom", selector),
    ("c", constant)]

/-- The kind of a template type; an element of the page counts as a selector only where it is
chosen by one. -/
def ofType (type : String) (parameters : List Json) : VariableKind :=
  if type = "d" ∧ (Field.parameter parameters "selectorType").text.uppered = "CSS" then selector
  else (ofTemplate.lookup type.lowered).getD other

end VariableKind

/-- A variable of a container. -/
structure Variable where
  id : String
  name : String
  type : String
  kind : VariableKind
  parameters : List Json
  /-- The exported object. -/
  raw : Json
  deriving DecidableEq, Repr

namespace Variable

/-- The variable of an exported object at a position of its section. -/
def ofJson (raw : Json) (position : Nat) : Variable where
  id := Field.entityId raw "variableId" "variable" position
  name := (raw.get "name").text
  type := (raw.get "type").text
  kind := VariableKind.ofType (raw.get "type").text (raw.get "parameter").items
  parameters := (raw.get "parameter").items
  raw := raw

/-- What the first parameter of a key holds, null where there is none. -/
def parameter (self : Variable) (key : String) : Json := Field.parameter self.parameters key

/-- Is there a parameter of a key? -/
def hasParameter (self : Variable) (key : String) : Bool :=
  Field.hasParameter self.parameters key

end Variable

end TagAudit
