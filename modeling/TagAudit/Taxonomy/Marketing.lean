import TagAudit.Container.Tag
import TagAudit.Pattern
import TagAudit.Taxonomy.ConsentCategory

/-!
# Marketing tags

Which tags serve marketing, which of those belong to advertising platforms, and which consent a
marketing tag needs. A tag is known by its type, by the vendor snippet in its script, or by a
keyword in its name or type.
-/

namespace TagAudit.Marketing

open ConsentCategory

/-- A tag type, or the beginning shared by a group of tag types. -/
inductive TypePattern
  | exactly (type : String)
  | startingWith (stem : String)
  deriving DecidableEq, Repr

/-- Does a pattern cover a tag type? The beginning of a group also stands for itself. -/
def TypePattern.covers (kind : String) : TypePattern → Bool
  | exactly type => kind == type
  | startingWith stem => kind.beginsWith stem

/-- Marketing tag types with the consent they need. -/
def consentByType : List (TypePattern × List ConsentCategory) :=
  [(.exactly "gaawe", analytics), (.exactly "gaawc", analytics), (.exactly "gtag", analytics),
    (.exactly "awct", advertising), (.exactly "awctc", advertising),
    (.exactly "aw_remarketing", advertising), (.exactly "aw_conversion", advertising),
    (.startingWith "dc_", advertising), (.startingWith "g_doubleclick_", advertising),
    (.startingWith "facebook_", advertising), (.startingWith "meta_", advertising),
    (.startingWith "linkedin_", advertising), (.startingWith "bing_", advertising),
    (.startingWith "msclkid_", advertising), (.startingWith "tiktok_", advertising),
    (.startingWith "ttq_", advertising), (.startingWith "hotjar_", analytics),
    (.startingWith "optimize_", analytics), (.startingWith "vwo_", analytics)]

/-- The consent that a tag type needs as such. -/
def consentOfType? (kind : String) : Option (List ConsentCategory) :=
  (consentByType.find? fun (pattern, _) => pattern.covers kind).map (·.2)

/-- Any text within a line. -/
def lineText : Pattern := .run (· != '\n') 0

/-- Snippets of the vendors whose tags are also reviewed for blocking triggers. -/
def adSnippets : List Pattern :=
  [.anyCase "connect.facebook.net", .anyCase "googleads.g.doubleclick.net",
    .anyCase "fls.doubleclick.net", .anyCase "bat.bing.com", .anyCase "analytics.tiktok.com",
    .anyCase "px.ads.linkedin.com"]

/-- Snippets of the other marketing vendors. -/
def otherSnippets : List Pattern :=
  [.all [.anyCase "www.googletagmanager.com/gtag/js", lineText, .anyCase "config", lineText,
      .anyCase "ads"],
    .anyCase "snap.sc", .anyCase "static.hotjar.com"]

/-- Does a script hold one of the snippets? -/
def holdsSnippet (snippets : List Pattern) (script : String) : Bool :=
  snippets.any (·.occursIn script.toList)

/-- Does a script hold the snippet of a marketing vendor? -/
def isMarketingScript (script : String) : Bool :=
  holdsSnippet adSnippets script || holdsSnippet otherSnippets script

/-- Words in a script that tell an advertising platform. -/
def adMarkers : List String := ["googleads", "facebook", "doubleclick", "bing"]

/-- Keywords of advertising and behaviour tools. -/
def adKeywords : List String :=
  ["facebook", "meta", "pixel", "google ads", "ads", "remarketing", "conversion", "floodlight",
    "linkedin", "bing", "tiktok", "hotjar", "optimize", "vwo"]

/-- Keywords of analytics. -/
def analyticsKeywords : List String := ["analytics", "gtag", "ga4"]

/-- Does the name or type of a tag hold one of the keywords, in any letter case? -/
def mentions (tag : Tag) (keywords : List String) : Bool :=
  let name := tag.name.lowered
  keywords.any fun keyword => name.hasText keyword || tag.kind.hasText keyword

/-- Does the tag serve marketing? -/
def isMarketing (tag : Tag) : Bool :=
  (consentOfType? tag.kind).isSome || (tag.isCustomHtml && isMarketingScript tag.html) ||
    mentions tag (adKeywords ++ analyticsKeywords)

/-- Tag types of advertising and behaviour tools. -/
def adTypes : List TypePattern :=
  [.exactly "awct", .exactly "awctc", .exactly "aw_remarketing", .exactly "aw_conversion",
    .startingWith "facebook_", .startingWith "meta_", .startingWith "linkedin_",
    .startingWith "bing_", .startingWith "tiktok_", .startingWith "ttq_",
    .startingWith "hotjar_", .startingWith "optimize_", .startingWith "vwo_"]

/-- Does the tag belong to an advertising platform? A tag with a script of its own is judged by
that script unless its type decides. -/
def isAdPlatform (tag : Tag) : Bool :=
  if adTypes.any (·.covers tag.kind) then true
  else if tag.isCustomHtml && !tag.html.isEmpty then holdsSnippet adSnippets tag.html
  else mentions tag adKeywords

/-- The consent that a marketing tag needs before it may fire. -/
def requiredConsent (tag : Tag) : List ConsentCategory :=
  match consentOfType? tag.kind with
  | some consents => consents
  | none =>
    if tag.isCustomHtml && isMarketingScript tag.html then
      if adMarkers.any (tag.html.hasText ·) then advertising else analytics
    else if ["ga4", "gtag", "gaawe"].any (tag.kind.hasText ·) || tag.kind == "googtag" then
      analytics
    else advertising

end TagAudit.Marketing
