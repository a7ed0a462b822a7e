import TagAudit.Json.Display

/-!
# Cells of tables

The cells of a column are of one kind if their values allow it: integers of a machine word,
double precision numbers with gaps, or truth values; otherwise they stay as they are. Cells are
ordered numbers first, then texts, then gaps.
-/

namespace TagAudit.Report

/-- What the cells of a column are. -/
inductive ColumnKind
  | values
  | integers
  | numbers
  | truths
  deriving DecidableEq, Repr, Inhabited

namespace Cell

/-- The undefined number, which stands for a cell that was left out. -/
def leftOut : Json := .number (.float .nan)

/-- Is the cell a gap? -/
def isGap (cell : Json) : Bool := cell == .null || cell == leftOut

/-- Is the cell a truth value? -/
def isTruth : Json → Bool
  | .bool _ => true
  | _ => false

/-- Is the cell a double precision number? -/
def isFloat : Json → Bool
  | .number (.float _) => true
  | _ => false

/-- Is the cell a number or a gap? -/
def isNumeric : Json → Bool
  | .number _ | .null => true
  | _ => false

/-- The integer of a cell. -/
def integer? : Json → Option Int
  | .number (.int n) => some n
  | _ => none

/-- Does an integer need a machine word without a sign? -/
def needsUnsigned (n : Int) : Bool := 9223372036854775807 < n

/-- Are there integers that no machine word holds, or that no kind of word holds together? -/
def overflow (integers : List Int) : Bool :=
  integers.any (fun n => n < -9223372036854775808 || 18446744073709551615 < n) ||
    (integers.any needsUnsigned && integers.any (· < 0))

/-- The place of a cell's kind in the order of cells. -/
def rank : Json → Nat
  | .bool _ => 0
  | .number _ => 0
  | .string _ => 1
  | _ => 2

/-- The order of cells: numbers before texts before gaps; truth values count as numbers. -/
def order (a b : Json) : Ordering :=
  if isGap a || isGap b then compare (isGap a) (isGap b)
  else match a, b with
    | .string s, .string t => compare s t
    | a, b =>
      match a.number?, b.number? with
      | some x, some y => (x.compare? y).getD .eq
      | _, _ => compare (rank a) (rank b)

/-- Are two cells the same to the order? -/
def same (a b : Json) : Bool := order a b == .eq

/-- A cell as plain text; a gap is empty. -/
def plainText (cell : Json) : String := if isGap cell then "" else cell.display

end Cell

namespace ColumnKind

open Cell in
/-- The kind of a column of cells. Integers after a null are not measured, since a null makes
numbers of them all. -/
def ofCells (cells : List Json) : ColumnKind :=
  if !cells.isEmpty && cells.all isTruth then truths
  else if !cells.all isNumeric then values
  else if overflow ((cells.takeWhile (· != .null)).filterMap integer?) then values
  else if cells.any isFloat then numbers
  else if cells.any (integer? · |>.isSome) then
    if cells.contains .null then numbers else integers
  else values

/-- A cell in a column of a kind. -/
def cast (kind : ColumnKind) (cell : Json) : Json :=
  match kind, cell with
  | numbers, .null => Cell.leftOut
  | numbers, .number x => .number (.float x.toBinary64)
  | _, cell => cell

/-- Do the cells count as numbers? Truth values do. -/
def isNumeric : ColumnKind → Bool
  | values => false
  | _ => true

end ColumnKind

/-- Texts make a column of values. -/
theorem ColumnKind.ofCells_string (s : String) (cells : List Json) :
    ofCells (.string s :: cells) = values := by
  simp [ofCells, Cell.isTruth, Cell.isNumeric]

/-- A text is no gap. -/
@[simp] theorem Cell.isGap_string (s : String) : isGap (.string s) = false := by
  simp [isGap, leftOut]

/-- Texts are ordered by their characters. -/
@[simp] theorem Cell.order_string (s t : String) :
    order (.string s) (.string t) = compare s t := by
  simp [order]

/-- Cells of a column of values stay as they are. -/
@[simp] theorem ColumnKind.cast_values (cell : Json) : values.cast cell = cell := by
  cases cell <;> rfl

end TagAudit.Report
