import TagAudit.Json.Display

/-!
# Access to the values of a report

A report may come as a value from outside. A member is required or may be left out, a list may
stand as an array, as the characters of a text or as the keys of an object, and each of these asks
for values of certain kinds.
-/

namespace TagAudit.Report

/-- Why a value makes no report. -/
inductive Fault
  /-- A required member is missing. -/
  | missingMember (key : String)
  /-- A value that is no object was asked for a member that may be left out. -/
  | noObject
  /-- A value is of a kind that does not go where it stands. -/
  | wrongKind
  /-- The values of a table do not fill its columns evenly. -/
  | unevenTable
  deriving DecidableEq, Repr

/-- A required member. -/
def required (value : Json) (key : String) : Except Fault Json :=
  match value with
  | .object members =>
    match members.lookup key with
    | some found => .ok found
    | none => .error (.missingMember key)
  | _ => .error .wrongKind

/-- The text of a required member. -/
def requiredText (value : Json) (key : String) : Except Fault String :=
  (required value key).map Json.display

/-- A member that may be left out. -/
def optional? (value : Json) (key : String) : Except Fault (Option Json) :=
  match value with
  | .object members => .ok (members.lookup key)
  | _ => .error .noObject

/-- The items of a value: those of an array, the characters of a text, the keys of an object. -/
def itemsOf : Json → Except Fault (List Json)
  | .array items => .ok items
  | .string s => .ok (s.toList.map fun c => .string c.toString)
  | .object members => .ok (members.map fun (key, _) => .string key)
  | .null | .bool _ | .number _ => .error .wrongKind

/-- The items of a value that may stand for nothing at all. -/
def itemsIfAny (value : Json) : Except Fault (List Json) :=
  if value.isNonempty then itemsOf value else .ok []

/-- The text of a string. -/
def nameOf : Json → Except Fault String
  | .string s => .ok s
  | _ => .error .wrongKind

/-- The names that a value lists, if it lists any. -/
def namesOf (value : Json) : Except Fault (List String) := do (← itemsIfAny value).mapM nameOf

/-- Is the value an array or an object? Such values are no keys. -/
def isComposite : Json → Bool
  | .array _ | .object _ => true
  | _ => false

/-- A value that is to serve as a key. -/
def keyOf (value : Json) : Except Fault Json :=
  if isComposite value then .error .wrongKind else .ok value

end TagAudit.Report
