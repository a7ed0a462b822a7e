import TagAudit.Regex.Property.Name
import TagAudit.Regex.Property.Table

/-!
# Looking up properties

A class of characters is named by a property with a value, or by one word: a general category, a
script or a block, a property that characters have or have not, or one of these with a word of
reference before it.
-/

namespace TagAudit.Regex

/-- What a name of a class refers to. -/
inductive PropertyLookup
  | known
  | unknownProperty
  | unknownValue
  deriving DecidableEq, Repr

/-- The values of a property in their standard spelling, if there is such a property. -/
def valuesOf? (property : String) : Option (List String) :=
  match valuedProperties.find? fun (names, _) => names.contains property with
  | some (_, values) => some values
  | none => if truthProperties.contains property then some truthValues else none

/-- The rest of a name after the word that begins it. -/
def afterWord? (word name : String) : Option String :=
  if word.toList.isPrefixOf name.toList then some (.ofList (name.toList.drop word.length))
  else none

/-- The classes whose names mean something narrower between brackets and colons. -/
def bracketClasses : List String := ["ALNUM", "DIGIT", "PUNCT", "XDIGIT"]

/-- Does one word name a class of characters? -/
def isClassName (name : String) : Bool :=
  let name := if bracketClasses.contains name then "POSIX" ++ name else name
  let afterIs := afterWord? "IS" name
  categories.contains name || scripts.contains name || blocks.contains name ||
    (valuesOf? name).isSome || afterIs.any truthProperties.contains ||
    afterIs.any scripts.contains || (afterWord? "IN" name).any blocks.contains

/-- Looks up the name of a class: a property, which may be missing, and a value. -/
def lookUpProperty (property value : List Char) : Except AnalysisError PropertyLookup := do
  if property.isEmpty then
    return if isClassName (← standardName value) then .known else .unknownProperty
  else
    let property ← standardName property
    let value ← standardName value
    match valuesOf? property with
    | none => return .unknownProperty
    | some values => return if values.contains value then .known else .unknownValue

end TagAudit.Regex
