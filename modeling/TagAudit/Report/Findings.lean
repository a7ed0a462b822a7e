import TagAudit.Report.Access
import TagAudit.Report.Cell

/-!
# Counts of findings

How often each type of finding occurs in the details of script tags, the most frequent first and
else in the order of the types.
-/

namespace TagAudit.Report

/-- A type of finding with the number of its findings. -/
structure TypeCount where
  type : Json
  count : Nat
  deriving DecidableEq, Repr

namespace TypeCount

/-- The order of types: the most frequent first, then by type. -/
def order (a b : TypeCount) : Ordering := (compare b.count a.count).then (Cell.order a.type b.type)

/-- Every type with the number of its findings, in the order of their first findings. -/
def tally (types : List Json) : List TypeCount :=
  (types.eraseDupsBy Cell.same).map fun type => ⟨type, types.countP (Cell.same · type)⟩

/-- The counts of some types, in order. -/
def ofTypes (types : List Json) : List TypeCount :=
  (tally types).mergeSort fun a b => (a.order b).isLE

/-- Do two counts need an order of types of different kinds? There is none. -/
def clash (a b : TypeCount) : Bool := a.count == b.count && Cell.rank a.type != Cell.rank b.type

/-- The type of a finding. -/
def typeOf (finding : Json) : Except Fault Json := do keyOf (← required finding "type")

/-- The types of the findings in the details of script tags. -/
def typesOf (details : Json) : Except Fault (List Json) := do
  let types ← (← itemsOf details).mapM fun detail => do
    (← itemsOf (← required detail "issues")).mapM typeOf
  return types.flatten

/-- The counts of the findings in the details of script tags. -/
def ofDetails (details : Json) : Except Fault (List TypeCount) := do
  let counts := ofTypes (← typesOf details)
  if counts.any fun a => counts.any (clash a) then throw .wrongKind
  return counts

end TypeCount

end TagAudit.Report
