import TagAudit.Json.Display
import TagAudit.Text.LetterCase
import TagAudit.Text.Search

/-!
# Fields of exported entities

An exported entity is an object whose fields may be missing or of any type. Identifiers are
written as text, lists of identifiers may be given as single values, truth is often spelled as a
word, and most settings stand in a list of keyed parameters.
-/

namespace TagAudit.Field

/-- A field of identifiers as texts: null and the empty text give none, an array one for each item
that is neither, any other value one. -/
def idTexts : Json → List String
  | .array items => (items.filter (!·.isAbsent)).map Json.display
  | value => if value.isAbsent then [] else [value.display]

/-- Does a value stand for yes? A text does if it spells so, any other value if it is not empty. -/
def isTruthy : Json → Bool
  | .string s => ["true", "1", "yes"].contains s.stripped.lowered
  | value => value.isNonempty

/-- Is the value an object whose key is `key`? -/
def hasKey (key : String) (parameter : Json) : Bool := parameter.get? "key" == some (.string key)

/-- What a parameter holds: its value, or else its list, or else its map. -/
def content? (parameter : Json) : Option Json :=
  (parameter.get? "value").or ((parameter.get? "list").or (parameter.get? "map"))

/-- What the first parameter of a key holds, null where there is none. -/
def parameter (parameters : List Json) (key : String) : Json :=
  ((parameters.find? (hasKey key)).bind content?).getD .null

/-- Is there a parameter of a key? -/
def hasParameter (parameters : List Json) (key : String) : Bool := parameters.any (hasKey key)

/-- The identifier of an entity: its own one, or else its name, or else its position among the
entities of its section. -/
def entityId (raw : Json) (field sectionName : String) (position : Nat) : String :=
  let own := raw.get field
  if !own.isAbsent then own.display
  else
    let name := (raw.get "name").text
    if name.isEmpty then s!"{sectionName}_{position}" else name

/-- A field that is the truth value true. -/
def isTrue (raw : Json) (field : String) : Bool := raw.get field == .bool true

end TagAudit.Field
