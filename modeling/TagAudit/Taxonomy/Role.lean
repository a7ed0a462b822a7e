import TagAudit.Container.Tag
import TagAudit.Pattern

/-!
# Roles of tags

Core tags that have to run early, tags that watch the user experience, and tags of Universal
Analytics, which no longer collects data.
-/

namespace TagAudit.Tag

/-- Does the name or type of the tag hold one of the keywords, in any letter case? -/
def nameOrKindHas (tag : Tag) (keywords : List String) : Bool :=
  let name := tag.name.lowered
  keywords.any fun keyword => tag.kind.hasText keyword || name.hasText keyword

/-- Does the tag send the event of a viewed page? -/
def sendsPageViewEvent (tag : Tag) : Bool :=
  ["gaawe", "ga4_event"].contains tag.kind && tag.parameter "eventName" == .string "page_view"

/-- Is this a configuration, a page view event, or a consent, initialization or server tag? -/
def isCore (tag : Tag) : Bool :=
  ["gaawc", "ga4_config", "gtag"].contains tag.kind || tag.sendsPageViewEvent ||
    tag.nameOrKindHas ["consent", "sgtm", "server", "init", "client"]

/-- Is this a heatmap, session recording or video tag? -/
def isUserExperience (tag : Tag) : Bool :=
  tag.nameOrKindHas ["video", "heatmap", "ux", "hotjar", "fullstory", "logrocket"]

/-- How Universal Analytics shows in names and tracking identifiers. -/
def universalAnalyticsPatterns : List Pattern :=
  [.all [.anyCase "universal", .run Text.isBlank 1, .anyCase "analytics"],
    .all [.wordEdge, .anyCase "ua-", .run Text.isDigit 4, .word "-", .run Text.isDigit 1,
      .wordEdge],
    .anyCase "analytics.js",
    .all [.wordEdge, .anyCase "ga.js", .wordEdge],
    .all [.notAfter Char.isAlphanum, .word "UA", .notAhead (.char Char.isAlphanum)]]

/-- Is this a tag of Universal Analytics, by type, name or tracking identifier? -/
def isUniversalAnalytics (tag : Tag) : Bool :=
  ["ua", "ga"].contains tag.kind ||
    ([tag.name, (tag.parameter "trackingId").text].any fun text =>
      universalAnalyticsPatterns.any (·.occursIn text.toList))

end TagAudit.Tag
