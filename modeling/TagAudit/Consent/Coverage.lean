import TagAudit.Consent.Verdict
import TagAudit.Container.Basic
import TagAudit.Number

/-!
# Consent coverage

The verdicts on all marketing tags of a container and the share of tags that cover what they need.
-/

namespace TagAudit

/-- The verdicts on the marketing tags of a container. -/
structure ConsentCoverage where
  verdicts : List ConsentVerdict
  deriving DecidableEq, Repr

namespace ConsentCoverage

/-- The coverage of a container. -/
def ofContainer (container : Container) : Except AnalysisError ConsentCoverage :=
  ((container.tags.filter Marketing.isMarketing).mapM ConsentVerdict.ofTag).map fun verdicts =>
    ⟨verdicts⟩

/-- The number of tags that were checked. -/
def checked (coverage : ConsentCoverage) : Nat := coverage.verdicts.length

/-- The number of tags in a state. -/
def count (coverage : ConsentCoverage) (state : ConsentState) : Nat :=
  coverage.verdicts.countP (·.state == state)

/-- The number of tags that do not cover what they need. -/
def problems (coverage : ConsentCoverage) : Nat :=
  coverage.count .missing + coverage.count .notConfigured

/-- The share of tags that cover what they need, one where there are none. -/
def score {α : Type} [Scalar α] (coverage : ConsentCoverage) : α :=
  if coverage.checked = 0 then Scalar.decimal 1 0
  else Scalar.ofNat (coverage.count .ok) / Scalar.ofNat coverage.checked

/-- The issues of the tags that do not cover what they need. -/
def issues (coverage : ConsentCoverage) : List Issue := coverage.verdicts.filterMap (·.issue?)

/-- The status: critical where a tag says nothing about consent, major where more than half of the
tags are not configured. -/
def status (coverage : ConsentCoverage) : Status :=
  if coverage.verdicts.any (·.severity == some .critical) then some .critical
  else if coverage.checked < 2 * coverage.count .notConfigured then some .major
  else if coverage.problems ≠ 0 then some .minor
  else none

/-- The headline of the coverage. -/
def message (coverage : ConsentCoverage) : StatusMessage :=
  if coverage.checked = 0 then
    ⟨none, "Consent Mode", "No marketing tags detected", "Nothing to configure"⟩
  else
    ⟨coverage.status, "Consent Mode",
      s!"{coverage.problems} of {coverage.checked} marketing tags with incomplete consent mapping",
      if coverage.problems ≠ 0 then "Review consent settings"
      else "Consent Mode configured correctly"⟩

/-- The coverage as a value. -/
def toJson (coverage : ConsentCoverage) : Json :=
  .object [("checked", .nat coverage.checked), ("ok", .nat (coverage.count .ok)),
    ("missing", .nat (coverage.count .missing)),
    ("not_configured", .nat (coverage.count .notConfigured)),
    ("details", .array (coverage.verdicts.map ConsentVerdict.toJson)),
    ("score", .number coverage.score)]

/-- What the log says about the coverage. -/
def log (coverage : ConsentCoverage) : List LogRecord :=
  [⟨.debug, "gtm_consent_mode", s!"Consent mode: {coverage.checked} marketing tags checked, " ++
    s!"{coverage.count .ok} ok"⟩]

end ConsentCoverage

end TagAudit
