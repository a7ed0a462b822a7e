import TagAudit.Json.Basic

/-!
# Comparing values

Values of one kind can be compared: numbers, among them the truth values, with numbers, texts with
texts, and arrays with arrays by their first difference. Nothing else has an order. Two values are
alike where their numbers are equal in value, whatever their form, and their members equal in any
order. The undefined number is in order with nothing, but there is only one of it in what is read
from a text, and an item or member is alike to itself.
-/

namespace TagAudit.Json

mutual

/-- Are two values alike? -/
def alike : Json → Json → Bool
  | null, other => other == null
  | bool b, other => other.number?.any (Number.same (.int (if b then 1 else 0)))
  | number n, other => other == number n || other.number?.any n.same
  | string s, other => other == string s
  | array xs, array ys => alikeItems xs ys
  | array _, _ => false
  | object ms, object ns => ms.length == ns.length && alikeMembers ms ns
  | object _, _ => false

/-- Are two arrays alike item by item? -/
def alikeItems : List Json → List Json → Bool
  | [], ys => ys.isEmpty
  | _ :: _, [] => false
  | x :: xs, y :: ys => alike x y && alikeItems xs ys

/-- Does an object have a member alike to each of these? -/
def alikeMembers : List (String × Json) → List (String × Json) → Bool
  | [], _ => true
  | (key, value) :: rest, ns => (ns.lookup key).any (alike value) && alikeMembers rest ns

end

mutual

/-- Is the first value at most the second? There is no answer for values without an order. -/
def atMost? : Json → Json → Option Bool
  | null, _ => none
  | bool b, other => other.number?.map (Number.le (.int (if b then 1 else 0)))
  | number n, other => other.number?.map n.le
  | string s, other => other.string?.map fun t => s ≤ t
  | array xs, array ys => atMostItems? xs ys
  | array _, _ => none
  | object _, _ => none

/-- Is the first array at most the second, by their first items that are not alike? -/
def atMostItems? : List Json → List Json → Option Bool
  | [], _ => some true
  | _ :: _, [] => some false
  | x :: xs, y :: ys => if alike x y then atMostItems? xs ys else atMost? x y

end

end TagAudit.Json
