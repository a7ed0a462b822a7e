import TagAudit.Report.Access
import TagAudit.Report.Table
import TagAudit.Score.Aggregate

/-!
# The breakdown of the score

The table of the dimensions of a score. It is made of a score, or of values that list its rows as
objects, its rows as arrays, or its columns.
-/

namespace TagAudit.Report.Breakdown

/-- The headers. -/
def headers : List String := ["label", "value", "weight", "available", "contribution"]

/-- The table whose column under each header holds the given cells. -/
def table (cells : String → List Json) : List Column :=
  headers.map fun header => .ofValues header (cells header)

/-- The table without rows. -/
def none : List Column := table fun _ => []

/-- The table of a score. -/
def ofScore (rows : List QualityScore.Row) : List Column :=
  table fun header => rows.map fun row =>
    match header with
    | "label" => .string row.dimension.label
    | "value" => .number row.value
    | "weight" => .number row.weight
    | "available" => .bool row.available
    | _ => .number row.contribution

/-- A key and a value, which make up a value of two items. -/
def pairOf (value : Json) : Except Fault (Json × Json) := do
  match ← itemsOf value with
  | [key, value] => return (← keyOf key, value)
  | _ => throw .unevenTable

/-- The members of an object, or of a list of pairs. -/
def membersOf : Json → Except Fault (List (String × Json))
  | .object members => .ok members
  | value => do
    let pairs ← (← itemsOf value).mapM pairOf
    return pairs.foldl (fun members (key, value) =>
      match key with
      | .string key => Json.assign key value members
      | _ => members) []

/-- The table of rows that name their cells; those that are left out are gaps. -/
def ofObjects (rows : List Json) : Except Fault (List Column) := do
  let rows ← rows.mapM membersOf
  return table fun header => rows.map fun row => (row.lookup header).getD Cell.leftOut

/-- The table of rows that list their cells; the longest row must fill the table. -/
def ofArrays (rows : List Json) : Except Fault (List Column) := do
  let rows ← rows.mapM itemsOf
  if greatest (rows.map List.length) ≠ headers.length then throw .unevenTable
  return headers.mapIdx fun i header => .ofValues header (rows.map fun row => row[i]?.getD .null)

/-- How a value stands for a column. -/
inductive Source
  /-- The column is left out. -/
  | gap
  /-- One value stands in every row. -/
  | constant (value : Json)
  /-- The cells of the rows. -/
  | listed (cells : List Json)
  /-- The cells of the rows, by names of the rows. -/
  | named (cells : List (String × Json))
  deriving DecidableEq, Repr

namespace Source

/-- How a member of the columns stands for its column. -/
def ofMember? : Option Json → Source
  | Option.none | some .null => gap
  | some (.array cells) => listed cells
  | some (.object cells) => named cells
  | some value => constant value

/-- The number of cells that are listed. -/
def length? : Source → Option Nat
  | listed cells => some cells.length
  | _ => Option.none

/-- The names of the rows. -/
def names? : Source → Option (List String)
  | named cells => some (cells.map (·.1))
  | _ => Option.none

/-- The column in rows that have names, or numbers for names. -/
def column (header : String) (names : List String) : Source → Column
  | gap => ⟨header, .values, names.map fun _ => Cell.leftOut⟩
  | constant value => .ofValues header (names.map fun _ => value)
  | listed cells => .ofValues header cells
  | named cells => .ofValues header (names.map fun name => (cells.lookup name).getD Cell.leftOut)

/-- The names of the rows that columns have in common. Columns list their rows, all of one number,
or name them, and one of them at least does so. -/
def rowNames (sources : List Source) : Except Fault (List String) :=
  match sources.filterMap length?, sources.filterMap names? with
  | [], [] => if sources.all (· == gap) then .ok [] else .error .unevenTable
  | [], names => .ok names.flatten.eraseDups
  | length :: lengths, [] =>
    if lengths.all (· == length) then .ok ((List.range length).map toString)
    else .error .unevenTable
  | _ :: _, _ :: _ => .error .unevenTable

end Source

/-- The table of columns by their headers. -/
def ofColumns (columns : List (String × Json)) : Except Fault (List Column) := do
  let sources := headers.map fun header => Source.ofMember? (columns.lookup header)
  let names ← Source.rowNames sources
  return List.zipWith (fun header source => source.column header names) headers sources

/-- The table that a value makes. -/
def ofJson : Json → Except Fault (List Column)
  | .null | .array [] => .ok none
  | .array (first :: rest) =>
    match first with
    | .object _ => ofObjects (first :: rest)
    | .array _ => ofArrays (first :: rest)
    | _ => .error .unevenTable
  | .object columns => ofColumns columns
  | _ => .error .unevenTable

end TagAudit.Report.Breakdown
