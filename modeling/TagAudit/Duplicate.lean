/-!
# Groups and duplicates

Values are put into groups by their keys. In a group of several, every value but the first is a
duplicate of the first.
-/

namespace TagAudit

/-- Puts a value into the group of its key; a new group comes last. -/
def putIntoGroup {κ β : Type} [DecidableEq κ] (key : κ) (value : β) :
    List (κ × List β) → List (κ × List β)
  | [] => [(key, [value])]
  | (other, values) :: rest =>
    if other = key then (other, values ++ [value]) :: rest
    else (other, values) :: putIntoGroup key value rest

/-- Values in groups by their keys, groups in the order of their first values. -/
def groupBy {κ β : Type} [DecidableEq κ] (pairs : List (κ × β)) : List (κ × List β) :=
  pairs.foldl (fun groups (key, value) => putIntoGroup key value groups) []

/-- The identifiers of a group of duplicates with the identifier that each duplicates: all but the
first, and the first. -/
def duplicatesIn (ids : List String) : List (String × String) :=
  match ids with
  | [] => []
  | first :: rest => rest.map (·, first)

/-- The first of the group of an identifier among pairs of a duplicate and the first of its group,
the last pair counting. -/
def firstOf? (duplicates : List (String × String)) (id : String) : Option String :=
  duplicates.reverse.lookup id

/-- The number of identifiers among pairs of a duplicate and the first of its group. -/
def duplicateCount (duplicates : List (String × String)) : Nat :=
  (duplicates.map (·.1)).eraseDups.length

end TagAudit
