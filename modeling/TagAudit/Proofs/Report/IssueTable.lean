import Mathlib.Data.Prod.Lex
import TagAudit.Proofs.Sorting
import TagAudit.Report.Issues

/-!
# The table of issues

Issues that consist of texts make rows of texts, one for each category of each issue. The table of
issues has the same rows, sorted stably by what the order of rows looks at: the rank of the
severity, the category, the type and the identifier of the entity.
-/

namespace TagAudit.Report

/-- Cells that are texts are left as they are in their column. -/
theorem ColumnKind.ofCells_map_string {α : Type} (text : α → String) (xs : List α) :
    ofCells (xs.map fun x => .string (text x)) = values := by
  cases xs with
  | nil => rfl
  | cons x rest => exact ofCells_string ..

/-- A row of the table of issues that holds nothing but texts. -/
structure TextRow where
  entityType : String
  entityId : String
  name : String
  category : String
  severity : String
  reason : String
  suggestion : String
  deriving DecidableEq, Repr

namespace TextRow

/-- The texts as the cells of a row. -/
def toRow (row : TextRow) : IssueRow where
  entityType := .string row.entityType
  entityId := row.entityId
  name := .string row.name
  category := .string row.category
  severity := .string row.severity
  reason := .string row.reason
  suggestion := .string row.suggestion

/-- What rows are sorted by: the rank of the severity, the greatest first, then category, type and
identifier by their characters. -/
def key (row : TextRow) : ℕᵒᵈ ×ₗ String ×ₗ String ×ₗ String :=
  toLex (.toDual (Severity.rankOfName row.severity),
    toLex (row.category, toLex (row.entityType, row.entityId)))

/-- The row of a record of an entity for a category. -/
def ofRecord (id : String) (record : IssueRecord) (category : String) : TextRow where
  entityType := record.entityType
  entityId := id
  name := record.name
  category
  severity := record.severity
  reason := record.reason
  suggestion := record.suggestion.getD ""

/-- The rows of the records of all entities, one for each category of each record. -/
def ofGroups (groups : List (String × List IssueRecord)) : List TextRow :=
  groups.flatMap fun (id, records) => records.flatMap fun record =>
    record.categories.map (ofRecord id record)

theorem ofRecords_eq_map (id : String) (records : List IssueRecord) :
    IssueRow.ofRecords id records =
      (records.flatMap fun record => record.categories.map (ofRecord id record)).map toRow := by
  simp [IssueRow.ofRecords, List.map_flatMap, Function.comp_def, ofRecord, toRow]

/-- The rows of an index are the rows of its records. -/
theorem ofIndex_eq_map (index : IssueIndex) :
    IssueRow.ofIndex index = (ofGroups index.byId).map toRow := by
  simp only [IssueRow.ofIndex, ofGroups, List.map_flatMap, ofRecords_eq_map]

/-- Rows of texts can be ordered. -/
theorem isOrdered_toRow (row : TextRow) : row.toRow.isOrdered = true := rfl

/-- Rows of texts stay as they are in the columns of a table. -/
theorem unify_map_toRow (rows : List TextRow) :
    IssueRow.unify (rows.map toRow) = rows.map toRow := by
  simp only [IssueRow.unify, List.map_map, Function.comp_def, toRow,
    ColumnKind.ofCells_map_string, ColumnKind.cast_values]
  rfl

/-- A comparison in several steps is decided by the first step that tells the values apart. -/
theorem isLE_then_iff {κ : Type} [LinearOrder κ] (a b : κ) (rest : Ordering) :
    ((compare a b).then rest).isLE = true ↔ a < b ∨ a = b ∧ rest.isLE = true := by
  rcases lt_trichotomy a b with h | h | h
  · simp [compare_lt_iff_lt.mpr h, h]
  · simp [h]
  · simp [compare_gt_iff_gt.mpr h, h.not_gt, h.ne']

/-- The order of rows is that of their keys. -/
theorem isLE_order_toRow_iff (a b : TextRow) :
    (a.toRow.order b.toRow).isLE = true ↔ a.key ≤ b.key := by
  have hstep : ∀ s t : String, ∀ rest : Ordering, ((compare s t).then rest).isLE = true ↔
      s < t ∨ s = t ∧ rest.isLE = true := isLE_then_iff
  have hlast : (compare a.entityId b.entityId).isLE = true ↔ a.entityId ≤ b.entityId :=
    Ordering.isLE_iff_ne_gt.trans compare_le_iff_le
  simp only [IssueRow.order, isLE_then_iff, toRow, Cell.order_string, hstep, hlast, key,
    Prod.Lex.toLex_le_toLex]
  exact or_congr Iff.rfl (and_congr_left' eq_comm)

/-- The table of rows of texts holds them in the order of their keys. -/
theorem issueTable_map_toRow (rows : List TextRow) :
    issueTable (rows.map toRow) = (rows.mergeSort fun a b => a.key ≤ b.key).map toRow := by
  rw [issueTable, unify_map_toRow]
  refine (List.map_mergeSort fun a _ b _ => ?_).symm
  rw [Bool.eq_iff_iff, isLE_order_toRow_iff, decide_eq_true_iff]

end TextRow

end TagAudit.Report
