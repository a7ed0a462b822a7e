import TagAudit.AnalysisError
import TagAudit.Container.Tag
import TagAudit.Taxonomy.ConsentCategory

/-!
# Declared consent

What a tag declares about consent: in its consent settings, in parameters named after consent
categories, or in a parameter that holds such settings. A declaration may also say that consent is
not set, or that nothing is configured.
-/

namespace TagAudit

/-- What a tag declares about consent. -/
structure ConsentDeclaration where
  /-- The declared categories, each once, in the order of their declaration. -/
  present : List ConsentCategory := []
  /-- All values that were read. -/
  values : List Json := []
  /-- Is there any information on consent? -/
  hasInfo : Bool := false
  /-- Does a block of settings say that consent is not set? -/
  statedNotSet : Bool := false
  deriving DecidableEq, Repr, Inhabited

namespace ConsentDeclaration

mutual

/-- The names of consent categories in a value: texts, at any depth of lists; of an object its
list counts, or else its value. -/
def names : Json → List String
  | .string s => if s.isEmpty then [] else [s]
  | .array xs => namesOfItems xs
  | .object ms => (namesAt "list" ms).getD ((namesAt "value" ms).getD [])
  | _ => []

/-- The names in the items of an array. -/
def namesOfItems : List Json → List String
  | [] => []
  | x :: xs => names x ++ namesOfItems xs

/-- The names in the first member of a key. -/
def namesAt (key : String) : List (String × Json) → Option (List String)
  | [] => none
  | (k, value) :: rest => if k = key then some (names value) else namesAt key rest

end

/-- The declaration with one more category. -/
def declare (declaration : ConsentDeclaration) (category : ConsentCategory) :
    ConsentDeclaration :=
  if category ∈ declaration.present then declaration
  else { declaration with present := declaration.present ++ [category] }

/-- The declaration after a name was read. -/
def readName (declaration : ConsentDeclaration) (name : String) : ConsentDeclaration :=
  let noted := { declaration with values := declaration.values ++ [.string name] }
  match ConsentCategory.ofName? name with
  | some category => noted.declare category
  | none => noted

/-- Does a value say that consent is not set, in any letter case? -/
def saysNotSet (status : Json) : Bool := status.text.uppered == "NOT_SET"

/-- The declaration after a block of settings was read. -/
def readBlock (declaration : ConsentDeclaration) (block : Json) : ConsentDeclaration :=
  let status := block.get "consentStatus"
  let noted := match status with
    | .string _ => { declaration with values := declaration.values ++ [status] }
    | _ => declaration
  let read := (names (block.get "consentType") ++ names (block.get "consentRequired")).foldl
    readName noted
  { read with statedNotSet := read.statedNotSet || saysNotSet status }

/-- The object that the items of a map make up: later items replace earlier ones of their key.
Items whose key is an array or an object cannot take part. -/
def objectOfMap (map : Json) : Except AnalysisError Json :=
  let entries := map.items.filter Json.isObject
  let isComposite : Json → Bool
    | .array _ | .object _ => true
    | _ => false
  if entries.any fun entry => isComposite (entry.get "key") then .error .compositeKey
  else .ok (.object (Json.assignAll [] (entries.filterMap fun entry =>
    (entry.get "key").string?.map fun key => (key, entry.get "value"))))

/-- The declaration after a parameter was read. -/
def readParameter (aware : ConsentDeclaration) (parameter : Json) :
    Except AnalysisError ConsentDeclaration :=
  let value := parameter.get "value"
  let declaration := { aware with hasInfo := true }
  match parameter.get "key" with
  | .string key =>
    match ConsentCategory.ofName? key with
    | some category =>
      let noted := { declaration with values := declaration.values ++ [value] }
      .ok (if Field.isTruthy value then noted.declare category else noted)
    | none =>
      if key = "consentSettings" then
        if value.isObject then .ok (declaration.readBlock value)
        else match parameter.get? "map" with
          | none => .ok declaration
          | some map => (objectOfMap map).map declaration.readBlock
      else if key = "consent_type" then
        let listed := if value == .null then parameter.get "list" else value
        .ok ((names listed).foldl readName declaration)
      else .ok aware
  | _ => .ok aware

/-- What a tag declares. -/
def ofTag (tag : Tag) : Except AnalysisError ConsentDeclaration :=
  let settings : ConsentDeclaration := match tag.consentSettings? with
    | some block => readBlock { hasInfo := true } block
    | none => {}
  tag.parameters.foldlM readParameter settings

/-- The value that says that nothing is configured. -/
def notConfigured : String := "not_configured"

/-- Does the declaration say that consent is not set, or nothing but that it is not configured? -/
def isNotSet (declaration : ConsentDeclaration) : Bool :=
  declaration.statedNotSet ||
    (!declaration.values.isEmpty && declaration.values.all (· == .string notConfigured))

end ConsentDeclaration

end TagAudit
