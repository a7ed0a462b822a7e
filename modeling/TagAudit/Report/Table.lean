import TagAudit.Report.CellText

/-!
# Tables

A table is a list of columns. As text every column is aligned to the right under its header and
set off by one space, and the headers of numeric columns by another one. Read by rows, a table of
numbers alone shares one kind of numbers.
-/

namespace TagAudit.Report

/-- A column of a table. -/
structure Column where
  header : String
  kind : ColumnKind
  cells : List Json
  deriving DecidableEq, Repr

/-- The text moved to the right end of a width. -/
def alignRight (width : Nat) (s : String) : String :=
  .ofList (List.replicate (width - s.length) ' ') ++ s

namespace Column

/-- The column of some values, of the kind that they allow. -/
def ofValues (header : String) (values : List Json) : Column :=
  let kind := ColumnKind.ofCells values
  ⟨header, kind, values.map kind.cast⟩

/-- The lines of a column, all of one width. -/
def lines (column : Column) : List String :=
  let header := (if column.kind.isNumeric then " " else "") ++ column.header
  let texts := header :: column.kind.texts column.cells
  texts.map (alignRight (greatest (texts.map String.length)))

end Column

/-- The lines of several columns, side by side. -/
def sideBySide : List (List String) → List String
  | [] => []
  | [column] => column
  | column :: rest => List.zipWith (fun left right => s!"{left} {right}") column (sideBySide rest)

/-- A table as text. -/
def tableText (columns : List Column) : String :=
  "\n".intercalate (sideBySide (columns.map Column.lines))

/-- Does a column need machine words without a sign? -/
def Column.isUnsigned (column : Column) : Bool :=
  column.cells.any fun cell => (Cell.integer? cell).any Cell.needsUnsigned

/-- The kind of numbers that the rows of a table share: they become double precision numbers
where the columns hold numbers of several kinds and nothing else. -/
def rowKind (columns : List Column) : ColumnKind :=
  let kinds := columns.map (·.kind)
  if kinds.any fun kind => kind == .values || kind == .truths then .values
  else if kinds.contains .numbers then .numbers
  else if columns.any (·.isUnsigned) && !columns.all (·.isUnsigned) then .numbers
  else .values

/-- Columns of cells read across. -/
def across : List (List Json) → List (List Json)
  | [] => []
  | [column] => column.map ([·])
  | column :: rest => List.zipWith List.cons column (across rest)

/-- The rows of a table. -/
def tableRows (columns : List Column) : List (List Json) :=
  let kind := rowKind columns
  across (columns.map fun column => column.cells.map kind.cast)

end TagAudit.Report
