import TagAudit.AnalysisError
import TagAudit.Container.Trigger
import TagAudit.Json.Writer

/-!
# Conditions of triggers

The value that a condition compares with, whether conditions hold everywhere, and the signature by
which triggers of one family with the same conditions are recognized.
-/

namespace TagAudit.Condition

/-- The value of the first parameter that holds the compared value. Only arrays have parameters;
the members of an object and the characters of a text are none, and other values that are not
empty cannot be listed at all. -/
def comparedValue (parameters : Json) : Except AnalysisError Json :=
  match parameters with
  | .array items =>
    .ok (((items.find? (Field.hasKey "arg1")).map (·.get "value")).getD .null)
  | .number _ | .bool _ =>
    if parameters.isNonempty then .error .notIterable else .ok .null
  | _ => .ok .null

/-- The value that a condition compares with: its own, or that of its parameter. -/
def value (condition : Json) : Except AnalysisError Json :=
  if !condition.isObject then .ok condition
  else match condition.get? "value" with
    | some own => .ok own
    | none => comparedValue (condition.get "parameter")

/-- Does a compared value match everything? -/
def matchesAll : Json → Bool
  | .string s => s == "true" || s == ".*" || s == "*"
  | value => value.number?.any (Number.same (.int 1))

/-- Do the conditions hold everywhere? None do, and a single one that matches everything. -/
def holdEverywhere : List Json → Except AnalysisError Bool
  | [] => .ok true
  | [condition] => (value condition).map matchesAll
  | _ => .ok false

/-- The canonical forms of some conditions, in order. -/
def normalized (conditions : List Json) : List String :=
  (conditions.map fun condition => String.ofList condition.canonical).mergeSort fun a b => a ≤ b

end TagAudit.Condition

namespace TagAudit.Trigger

/-- The family and the conditions of a trigger in one text, the order of conditions left out. -/
def signature (trigger : Trigger) : String :=
  .ofList (Json.canonical (.object [("type", .string trigger.family),
    ("filter", .strings (Condition.normalized trigger.filters)),
    ("autoEventFilter", .strings (Condition.normalized trigger.autoEventFilters)),
    ("customEventFilter", .strings (Condition.normalized trigger.customEventFilters))]))

/-- Does the trigger fire on every page? -/
def firesOnAllPages (trigger : Trigger) : Except AnalysisError Bool :=
  if trigger.family = "PAGEVIEW" then Condition.holdEverywhere trigger.conditions else .ok false

end TagAudit.Trigger
