import TagAudit.Consent.Declaration
import TagAudit.Issue
import TagAudit.Taxonomy.Marketing

/-!
# Consent verdicts

Whether a marketing tag declares the consent that it needs. A declaration that is missing or not
set covers nothing; tags that handle consent by themselves cover analytics as soon as consent is
configured at all.
-/

namespace TagAudit

/-- How far a tag's declaration covers what it needs. -/
inductive ConsentState
  | ok
  | missing
  | notConfigured
  deriving DecidableEq, Repr, Inhabited

/-- The name of a state. -/
def ConsentState.name : ConsentState → String
  | ok => "ok"
  | missing => "missing"
  | notConfigured => "not_configured"

/-- The verdict on a tag. -/
structure ConsentVerdict where
  tag : Tag
  state : ConsentState
  severity : Status
  required : List ConsentCategory
  present : List ConsentCategory
  missing : List ConsentCategory
  /-- Does the tag cover analytics by itself? -/
  inferred : Bool
  deriving DecidableEq, Repr

namespace ConsentVerdict

/-- The types of tags that handle analytics consent by themselves. -/
def consentAwareTypes : List String := ["gaawc", "gaawe", "googtag", "gtag"]

/-- Does the tag cover analytics by itself without declaring it? -/
def infersAnalytics (tag : Tag) (declaration : ConsentDeclaration) : Bool :=
  declaration.hasInfo && !declaration.isNotSet && consentAwareTypes.contains tag.kind &&
    .analyticsStorage ∉ declaration.present

/-- The verdict on a tag with a declaration. -/
def ofDeclaration (tag : Tag) (declaration : ConsentDeclaration) : ConsentVerdict :=
  let required := Marketing.requiredConsent tag
  let inferred := infersAnalytics tag declaration
  let present := declaration.present ++ (if inferred then [.analyticsStorage] else [])
  let missing := required.filter (· ∉ present)
  let verdict (state : ConsentState) (severity : Status) (missing : List ConsentCategory) :
      ConsentVerdict := ⟨tag, state, severity, required, present, missing, inferred⟩
  if !declaration.hasInfo then verdict .notConfigured (some .critical) missing
  else if declaration.isNotSet then verdict .notConfigured (some .major) required
  else if missing.isEmpty then verdict .ok none missing
  else
    let partly := missing.length = 1 ∧ required.any (· ∈ present)
    verdict .missing (some (if partly then .minor else .major)) missing

/-- The verdict on a tag. -/
def ofTag (tag : Tag) : Except AnalysisError ConsentVerdict :=
  (ConsentDeclaration.ofTag tag).map (ofDeclaration tag)

/-- Categories as a value. -/
def categoriesJson (categories : List ConsentCategory) : Json := .strings (categories.map (·.name))

/-- A verdict as a value. -/
def toJson (verdict : ConsentVerdict) : Json :=
  .object [("id", .string verdict.tag.id), ("name", .string verdict.tag.name),
    ("type", .string verdict.tag.type), ("state", .string verdict.state.name),
    ("severity", .string verdict.severity.name), ("required", categoriesJson verdict.required),
    ("present", categoriesJson verdict.present), ("missing", categoriesJson verdict.missing),
    ("paused", .bool verdict.tag.paused), ("inferred", .bool verdict.inferred)]

/-- Categories in words. -/
def listed (categories : List ConsentCategory) : String :=
  ", ".intercalate (categories.map (·.name))

/-- The issue of a tag that does not cover what it needs. -/
def issue? (verdict : ConsentVerdict) : Option Issue :=
  verdict.severity.map fun severity =>
    ⟨.tag, verdict.tag.id, verdict.tag.name, .consentMissing, severity,
      if severity = .critical then "Marketing tag has no consent settings"
      else s!"Missing consent categories: {listed verdict.missing}",
      s!"Require {listed verdict.required} in the tag's consent settings",
      [("missing", categoriesJson verdict.missing), ("state", .string verdict.state.name)]⟩

end ConsentVerdict

end TagAudit
