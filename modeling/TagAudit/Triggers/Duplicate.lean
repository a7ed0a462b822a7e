import TagAudit.Duplicate
import TagAudit.Triggers.Condition

/-!
# Duplicate triggers

Triggers of one signature form a group of duplicates.
-/

namespace TagAudit

namespace Trigger

/-- The identifiers of the triggers of each signature that several triggers have. -/
def duplicateGroups (triggers : List Trigger) : List (List String) :=
  ((groupBy (triggers.map fun trigger => (trigger.signature, trigger.id))).map (·.2)).filter
    (1 < ·.length)

/-- A group as a value. -/
def duplicateGroupJson (ids : List String) : Json :=
  .object [("ids", .strings ids), ("reason", .string "same type and conditions")]

end Trigger

end TagAudit
