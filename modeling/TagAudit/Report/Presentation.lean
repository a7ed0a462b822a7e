import TagAudit.Report.Access

/-!
# Presentation of statuses and scores

The signs, words and colours by which the status of an analysis and the quality score are shown.
-/

namespace TagAudit.Report

/-- The colours in use. -/
inductive Color
  | success
  | info
  | warning
  | danger
  deriving DecidableEq, Repr, Inhabited

/-- The code of a colour. -/
def Color.code : Color → String
  | success => "#2ca02c"
  | info => "#17a2b8"
  | warning => "#ff7f0e"
  | danger => "#d62728"

/-- How a status is shown. -/
structure StatusStyle where
  icon : String
  label : String
  priority : String
  color : Color
  deriving DecidableEq, Repr

namespace StatusStyle

/-- The style of a status given by name; an unknown status is shown as a good one. -/
def ofName : String → StatusStyle
  | "critical" => ⟨"🚨", "Critical", "Critical", .danger⟩
  | "major" => ⟨"⚠\uFE0F", "Major", "High", .warning⟩
  | "minor" => ⟨"ℹ\uFE0F", "Minor", "Medium", .info⟩
  | _ => ⟨"✅", "OK", "None", .success⟩

/-- The style of the status that a value names; whatever is no key names no status. -/
def ofStatus (status : Json) : Except Fault StatusStyle :=
  (keyOf status).map fun status => ofName status.text

/-- A style as a value. -/
def toJson (style : StatusStyle) : Json :=
  .object [("icon", .string style.icon), ("label", .string style.label),
    ("priority", .string style.priority), ("color", .string style.color.code)]

end StatusStyle

/-- The colour of a score. -/
def scoreColor (total : Number) : Color :=
  if (Number.int 80).le total then .success
  else if (Number.int 60).le total then .warning
  else .danger

end TagAudit.Report
