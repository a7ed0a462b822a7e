import TagAudit.Number

/-!
# JSON values

The values that an export is made of. Members of an object keep the order in which their keys
first appeared; assigning to a key that is present replaces its value in place. Looking a key up
finds the first member of that name.
-/

namespace TagAudit

/-- A JSON value. -/
inductive Json
  | null
  | bool (value : Bool)
  | number (value : Number)
  | string (value : String)
  | array (items : List Json)
  | object (members : List (String × Json))
  deriving Repr, Inhabited

namespace Json

mutual

/-- Equality of values is decidable. -/
def decideEq : (a b : Json) → Decidable (a = b)
  | null, b => match b with
    | null => .isTrue rfl
    | bool _ | number _ | string _ | array _ | object _ => .isFalse (by simp)
  | bool x, b => match b with
    | bool y => decidable_of_iff (x = y) (by simp)
    | null | number _ | string _ | array _ | object _ => .isFalse (by simp)
  | number x, b => match b with
    | number y => decidable_of_iff (x = y) (by simp)
    | null | bool _ | string _ | array _ | object _ => .isFalse (by simp)
  | string x, b => match b with
    | string y => decidable_of_iff (x = y) (by simp)
    | null | bool _ | number _ | array _ | object _ => .isFalse (by simp)
  | array x, b => match b with
    | array y => @decidable_of_iff _ (x = y) (by simp) (decideEqItems x y)
    | null | bool _ | number _ | string _ | object _ => .isFalse (by simp)
  | object x, b => match b with
    | object y => @decidable_of_iff _ (x = y) (by simp) (decideEqMembers x y)
    | null | bool _ | number _ | string _ | array _ => .isFalse (by simp)

/-- Equality of arrays is decidable. -/
def decideEqItems : (a b : List Json) → Decidable (a = b)
  | [], [] => .isTrue rfl
  | [], _ :: _ | _ :: _, [] => .isFalse (by simp)
  | x :: xs, y :: ys =>
    match decideEq x y, decideEqItems xs ys with
    | .isTrue h, .isTrue hs => .isTrue (by rw [h, hs])
    | .isFalse h, _ => .isFalse (by simp [h])
    | _, .isFalse h => .isFalse (by simp [h])

/-- Equality of objects, order included, is decidable. -/
def decideEqMembers : (a b : List (String × Json)) → Decidable (a = b)
  | [], [] => .isTrue rfl
  | [], _ :: _ | _ :: _, [] => .isFalse (by simp)
  | (j, x) :: xs, (k, y) :: ys =>
    match instDecidableEqString j k, decideEq x y, decideEqMembers xs ys with
    | .isTrue g, .isTrue h, .isTrue hs => .isTrue (by rw [g, h, hs])
    | .isFalse g, _, _ => .isFalse (by simp [g])
    | _, .isFalse h, _ => .isFalse (by simp [h])
    | _, _, .isFalse h => .isFalse (by simp [h])

end

instance : DecidableEq Json := decideEq

/-- A whole number. -/
def nat (n : Nat) : Json := number (.int n)

/-- A list of texts. -/
def strings (texts : List String) : Json := array (texts.map string)

/-- The value of a member of an object. -/
def get? (value : Json) (key : String) : Option Json :=
  match value with
  | object members => members.lookup key
  | _ => none

/-- The value of a member, null where there is none. -/
def get (value : Json) (key : String) : Json := (value.get? key).getD null

/-- The items of an array; any other value has none. -/
def items : Json → List Json
  | array xs => xs
  | _ => []

/-- The members of an object; any other value has none. -/
def members : Json → List (String × Json)
  | object ms => ms
  | _ => []

/-- The text of a string. -/
def string? : Json → Option String
  | string s => some s
  | _ => none

/-- The text of a string; any other value counts as the empty text. -/
def text (value : Json) : String := value.string?.getD ""

/-- Is the value an object? -/
def isObject : Json → Bool
  | object _ => true
  | _ => false

/-- Is the value null or the empty text? -/
def isAbsent (value : Json) : Bool := value == null || value == string ""

/-- Is the value anything but null, false, zero or empty? -/
def isNonempty : Json → Bool
  | null => false
  | bool b => b
  | number n => !n.isZero
  | string s => !s.isEmpty
  | array xs => !xs.isEmpty
  | object ms => !ms.isEmpty

/-- The number that a value counts as: truth values count as one and zero. -/
def number? : Json → Option Number
  | number n => some n
  | bool b => some (.int (if b then 1 else 0))
  | _ => none

/-- The members with one more assignment: a present key keeps its place. -/
def assign (key : String) (value : Json) : List (String × Json) → List (String × Json)
  | [] => [(key, value)]
  | (k, v) :: rest => if k = key then (k, value) :: rest else (k, v) :: assign key value rest

/-- The members after all assignments of a list, in its order. -/
def assignAll (members : List (String × Json)) (assignments : List (String × Json)) :
    List (String × Json) :=
  assignments.foldl (fun ms (key, value) => assign key value ms) members

/-- An assigned key has the assigned value. -/
theorem lookup_assign_self (key : String) (value : Json) (members : List (String × Json)) :
    (assign key value members).lookup key = some value := by
  induction members with
  | nil => simp [assign]
  | cons member rest ih =>
    obtain ⟨k, v⟩ := member
    by_cases h : k = key
    · simp [assign, h]
    · have : (key == k) = false := by simpa using Ne.symm h
      simp [assign, h, List.lookup_cons, this, ih]

/-- An assignment leaves the other keys alone. -/
theorem lookup_assign_of_ne {key other : String} (ne : other ≠ key) (value : Json)
    (members : List (String × Json)) :
    (assign key value members).lookup other = members.lookup other := by
  induction members with
  | nil =>
    have : (other == key) = false := by simpa using ne
    simp [assign, List.lookup_cons, this]
  | cons member rest ih =>
    obtain ⟨k, v⟩ := member
    by_cases h : k = key
    · have : (other == k) = false := by simpa [h] using ne
      simp [assign, h, List.lookup_cons, h ▸ this]
    · simp [assign, h, List.lookup_cons, ih]

end Json

end TagAudit
