/-!
# Severities

How serious a problem is, the order among severities and the worst one of a collection. A status
is the severity of the worst problem, or none where all is well.
-/

namespace TagAudit

/-- How serious a problem is. -/
inductive Severity
  | minor
  | major
  | critical
  deriving DecidableEq, Repr, Inhabited

namespace Severity

/-- The severities from the mildest to the most serious. -/
def ascending : List Severity := [minor, major, critical]

/-- The name of a severity. -/
def name : Severity → String
  | minor => "minor"
  | major => "major"
  | critical => "critical"

/-- The severity of a name. -/
def ofName? (name : String) : Option Severity := ascending.find? (·.name == name)

/-- The order of the severities, from one. -/
def rank : Severity → Nat
  | minor => 1
  | major => 2
  | critical => 3

/-- The rank of a severity given by name; an unknown name ranks below all severities. -/
def rankOfName (name : String) : Nat := ((ofName? name).map rank).getD 0

/-- The first of the values with the greatest rank. -/
def worstBy {α : Type} (rank : α → Nat) (values : List α) : Option α :=
  values.foldl (fun worst value =>
    match worst with
    | none => some value
    | some current => if rank current < rank value then some value else some current) none

/-- The most serious severity of a list. -/
def worst (severities : List Severity) : Option Severity := worstBy rank severities

/-- Every severity has a name of its own. -/
theorem ofName?_name (severity : Severity) : ofName? severity.name = some severity := by
  cases severity <;> decide

end Severity

/-- The severity of the worst problem, if there is any. -/
abbrev Status := Option Severity

namespace Status

/-- The name of a status. -/
def name (status : Status) : String := (status.map Severity.name).getD "ok"

end Status

end TagAudit
