import TagAudit.Duplicate
import TagAudit.Issue

/-!
# Issue index

Tables over a list of issue records, for looking them up: the records of each entity, the entities
of each category, and how often each category occurs. Keys stand in the order of their first
occurrence.
-/

namespace TagAudit

/-- The tables over a list of records. -/
structure IssueIndex where
  /-- The identifiers of the entities of each category, each once. -/
  byCategory : List (String × List String) := []
  /-- The records of each entity identifier. -/
  byId : List (String × List IssueRecord) := []
  /-- How often each category occurs. -/
  counters : List (String × Nat) := []
  deriving DecidableEq, Repr, Inhabited

namespace IssueIndex

/-- The sets with a member added to the set of a key. -/
def addMember (key member : String) : List (String × List String) → List (String × List String)
  | [] => [(key, [member])]
  | (other, members) :: rest =>
    if other = key then
      (other, if members.contains member then members else members ++ [member]) :: rest
    else (other, members) :: addMember key member rest

/-- The counters with one more for a key. -/
def countOne (key : String) : List (String × Nat) → List (String × Nat)
  | [] => [(key, 1)]
  | (other, count) :: rest =>
    if other = key then (other, count + 1) :: rest else (other, count) :: countOne key rest

/-- The index with a category of an entity entered. -/
def enter (id : String) (index : IssueIndex) (category : String) : IssueIndex :=
  ⟨addMember category id index.byCategory, index.byId, countOne category index.counters⟩

/-- The index with one more record. -/
def insert (index : IssueIndex) (record : IssueRecord) : IssueIndex :=
  record.categories.foldl (enter record.entityId)
    ⟨index.byCategory, putIntoGroup record.entityId record index.byId, index.counters⟩

/-- The index of a list of records. -/
def ofRecords (records : List IssueRecord) : IssueIndex := records.foldl insert {}

/-- Has the entity a record of a category? -/
def has (index : IssueIndex) (category id : String) : Bool :=
  ((index.byCategory.lookup category).getD []).contains id

/-- The records of an entity identifier, of all types of entities or of one. -/
def recordsOf (index : IssueIndex) (id : String) (entityType : Option String) :
    List IssueRecord :=
  let records := (index.byId.lookup id).getD []
  match entityType with
  | none => records
  | some type => records.filter (·.entityType == type)

/-- All records, those of each entity together. -/
def records (index : IssueIndex) : List IssueRecord := index.byId.flatMap (·.2)

/-- The index as a value. -/
def toJson (index : IssueIndex) : Json :=
  .object [
    ("by_category", .object (index.byCategory.map fun (category, ids) =>
      (category, .strings (ids.mergeSort fun a b => a ≤ b)))),
    ("by_id", .object (index.byId.map fun (id, records) =>
      (id, .array (records.map IssueRecord.toJson)))),
    ("counters", .object (index.counters.map fun (category, count) => (category, .nat count)))]

end IssueIndex

end TagAudit
