import TagAudit.Json.Basic
import TagAudit.Text.Search

/-!
# Placeholders

A placeholder is a name between double braces, without braces inside and trimmed of blanks. Values
are searched for placeholders down to a depth; the keys of objects are not searched.
-/

namespace TagAudit.Placeholder

/-- How much of a placeholder has been read. -/
inductive Progress
  /-- No brace. -/
  | outside
  /-- One opening brace. -/
  | opened
  /-- Two opening braces and the reversed name so far. -/
  | inside (name : List Char)
  /-- A whole name and one closing brace. -/
  | closing (name : List Char)
  deriving DecidableEq, Repr

/-- Reads one character: the new progress, and the name that is complete with it. -/
def step : Progress → Char → Progress × Option (List Char)
  | .outside, c => (if c = '\x7b' then .opened else .outside, none)
  | .opened, c => (if c = '\x7b' then .inside [] else .outside, none)
  | .inside name, c =>
    if c = '\x7b' then (if name.isEmpty then .inside [] else .opened, none)
    else if c = '\x7d' then (.closing name, none)
    else (.inside (c :: name), none)
  | .closing name, c =>
    if c = '\x7d' then (.outside, some name.reverse)
    else (if c = '\x7b' then .opened else .outside, none)

/-- The names completed while a text is read, as they stand between the braces. -/
def readFrom (progress : Progress) : List Char → List (List Char)
  | [] => []
  | c :: rest =>
    let (next, name) := step progress c
    name.toList ++ readFrom next rest

/-- The names of the placeholders in a text, trimmed, each once and none empty. -/
def ofText (text : String) : List String :=
  (((readFrom .outside text.toList).map fun name => String.ofList (Text.strip name)).filter
    (!·.isEmpty)).eraseDups

mutual

/-- The names of the placeholders in a value, down to `depth` steps into it. -/
def collect (depth : Nat) : Json → List String
  | .string s => ofText s
  | .array xs => match depth with
    | 0 => []
    | below + 1 => collectItems below xs
  | .object ms => match depth with
    | 0 => []
    | below + 1 => collectMembers below ms
  | _ => []

/-- The names of the placeholders in the items of an array. -/
def collectItems (depth : Nat) : List Json → List String
  | [] => []
  | x :: xs => collect depth x ++ collectItems depth xs

/-- The names of the placeholders in the values of an object. -/
def collectMembers (depth : Nat) : List (String × Json) → List String
  | [] => []
  | (_, x) :: rest => collect depth x ++ collectMembers depth rest

end

mutual

/-- The number of parts of a value that lie too deep to be searched. -/
def skipped (depth : Nat) : Json → Nat
  | .array xs => match depth with
    | 0 => xs.length
    | below + 1 => skippedItems below xs
  | .object ms => match depth with
    | 0 => ms.length
    | below + 1 => skippedMembers below ms
  | _ => 0

/-- The number of parts of the items of an array that lie too deep. -/
def skippedItems (depth : Nat) : List Json → Nat
  | [] => 0
  | x :: xs => skipped depth x + skippedItems depth xs

/-- The number of parts of the values of an object that lie too deep. -/
def skippedMembers (depth : Nat) : List (String × Json) → Nat
  | [] => 0
  | (_, x) :: rest => skipped depth x + skippedMembers depth rest

end

/-- Texts in the order of their code points, each once. -/
def sortedOnce (texts : List String) : List String :=
  texts.eraseDups.mergeSort fun a b => a ≤ b

end TagAudit.Placeholder
