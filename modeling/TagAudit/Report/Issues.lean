import TagAudit.IssueIndex
import TagAudit.Report.Access
import TagAudit.Report.Table

/-!
# Tables of issues

The table of all issues, one row for each category of each issue, the most serious first; and the
table of categories with the numbers of their rows, the most frequent first.
-/

namespace TagAudit.Report

/-- A row of the table of issues. -/
structure IssueRow where
  entityType : Json
  entityId : String
  name : Json
  category : Json
  severity : Json
  reason : Json
  suggestion : Json
  deriving DecidableEq, Repr

namespace IssueRow

/-- The rank of the severity, zero where it is unknown. -/
def rank (row : IssueRow) : Nat := Severity.rankOfName row.severity.text

/-- The order of rows: the most serious first, then by category, type and identifier. -/
def order (a b : IssueRow) : Ordering :=
  (compare b.rank a.rank).then <| (Cell.order a.category b.category).then <|
    (Cell.order a.entityType b.entityType).then (compare a.entityId b.entityId)

/-- The rows of the records of an entity. -/
def ofRecords (id : String) (records : List IssueRecord) : List IssueRow :=
  records.flatMap fun record => record.categories.map fun category =>
    { entityType := .string record.entityType
      entityId := id
      name := .string record.name
      category := .string category
      severity := .string record.severity
      reason := .string record.reason
      suggestion := .string (record.suggestion.getD "") }

/-- The rows of an index, by its identifiers. -/
def ofIndex (index : IssueIndex) : List IssueRow :=
  index.byId.flatMap fun (id, records) => ofRecords id records

/-- The rows of the value of an issue of an entity. -/
def ofIssue (id : String) (issue : Json) : Except Fault (List IssueRow) := do
  (← itemsOf (← required issue "categories")).mapM fun category => do
    let suggestion := issue.get "suggestion"
    return {
      entityType := ← required issue "entity_type"
      entityId := id
      name := ← required issue "name"
      category
      severity := ← required issue "severity"
      reason := ← required issue "reason"
      suggestion := if suggestion.isNonempty then suggestion else .string "" }

/-- Does the order tell the row from others? Arrays and objects have no place in it. -/
def isOrdered (row : IssueRow) : Bool :=
  !isComposite row.severity && !isComposite row.category && !isComposite row.entityType

/-- The rows of issues by entity in the value of an audit. -/
def ofJson (audit : Json) : Except Fault (List IssueRow) := do
  let index := (← optional? audit "issue_index").getD (.object [])
  let byId := (← optional? index "by_id").getD (.object [])
  let .object entities := byId | throw .noObject
  let rows ← entities.mapM fun (id, issues) => do
    return (← (← itemsOf issues).mapM (ofIssue id)).flatten
  if !rows.flatten.all isOrdered then throw .wrongKind
  return rows.flatten

/-- The headers of the table of issues. -/
def headers : List String :=
  ["entity_type", "entity_id", "name", "category", "severity", "reason", "suggestion"]

/-- The cells of a row. -/
def cells (row : IssueRow) : List Json :=
  [row.entityType, .string row.entityId, row.name, row.category, row.severity, row.reason,
    row.suggestion]

/-- The rows with every cell in the kind of its column. -/
def unify (rows : List IssueRow) : List IssueRow :=
  let kind (cell : IssueRow → Json) : ColumnKind := .ofCells (rows.map cell)
  let entityType := kind (·.entityType)
  let name := kind (·.name)
  let category := kind (·.category)
  let severity := kind (·.severity)
  let reason := kind (·.reason)
  let suggestion := kind (·.suggestion)
  rows.map fun row =>
    { entityType := entityType.cast row.entityType
      entityId := row.entityId
      name := name.cast row.name
      category := category.cast row.category
      severity := severity.cast row.severity
      reason := reason.cast row.reason
      suggestion := suggestion.cast row.suggestion }

end IssueRow

/-- The table of issues: its rows in order; rows that the order does not tell apart keep the order
of the index. -/
def issueTable (rows : List IssueRow) : List IssueRow :=
  (IssueRow.unify rows).mergeSort fun a b => (a.order b).isLE

/-- A row of the table of categories. -/
structure CategoryRow where
  category : Json
  critical : Nat
  major : Nat
  minor : Nat
  deriving DecidableEq, Repr

namespace CategoryRow

/-- The number of issues of known severity. -/
def total (row : CategoryRow) : Nat := row.critical + row.major + row.minor

/-- The row of a category among the rows of issues. -/
def ofRows (rows : List IssueRow) (category : Json) : CategoryRow :=
  let count (severity : Severity) : Nat :=
    rows.countP fun row => Cell.same row.category category && row.severity == .string severity.name
  ⟨category, count .critical, count .major, count .minor⟩

end CategoryRow

/-- The categories in the table of issues, in order. -/
def categories (issues : List IssueRow) : List Json :=
  let present := (issues.map (·.category)).filter (!Cell.isGap ·)
  (present.eraseDupsBy Cell.same).mergeSort fun a b => (Cell.order a b).isLE

/-- The rows of the categories with issues of some severity, the most frequent first and else by
category. -/
def categoryRows (issues : List IssueRow) : List CategoryRow :=
  let graded := issues.filter fun row => !Cell.isGap row.severity
  let shown := (categories issues).filter fun category =>
    graded.any fun row => Cell.same row.category category
  (shown.map (CategoryRow.ofRows issues)).mergeSort fun a b => b.total ≤ a.total

/-- The table of categories, from the table of issues. -/
def categoryColumns (issues : List IssueRow) : List Column :=
  let rows := categoryRows issues
  let kind := ColumnKind.ofCells (categories issues)
  let counts (header : String) (count : CategoryRow → Nat) : Column :=
    ⟨header, .integers, rows.map fun row => .nat (count row)⟩
  [⟨"category", kind, rows.map fun row => kind.cast row.category⟩, counts "critical" (·.critical),
    counts "major" (·.major), counts "minor" (·.minor), counts "total" (·.total)]

/-- Does a field need quotes among comma-separated ones? -/
def needsQuotes (field : String) : Bool :=
  field.toList.any fun c => c == ',' || c == '"' || c == '\n'

/-- A comma-separated field; in quotes, a quotation mark is written twice. -/
def separatedField (field : String) : String :=
  if needsQuotes field then
    .ofList ('"' :: field.toList.flatMap (fun c => if c = '"' then [c, c] else [c]) ++ ['"'])
  else field

/-- A line of comma-separated fields. -/
def separatedLine (fields : List String) : String :=
  ",".intercalate (fields.map separatedField) ++ "\n"

/-- The table of issues as comma-separated lines. -/
def issueLines (issues : List IssueRow) : String :=
  String.join <| separatedLine IssueRow.headers ::
    issues.map fun row => separatedLine (row.cells.map Cell.plainText)

end TagAudit.Report
