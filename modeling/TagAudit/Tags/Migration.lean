import TagAudit.Container.Basic
import TagAudit.Taxonomy.Role

/-!
# Migration of obsolete tags

For every tag of Universal Analytics a replacement is suggested: a configuration for a tag that
tracks page views, an event for any other.
-/

namespace TagAudit

/-- A suggested replacement. -/
structure MigrationSuggestion where
  tagId : String
  tagName : String
  trackType : String
  deriving DecidableEq, Repr

namespace MigrationSuggestion

/-- The suggestion for a tag. -/
def ofTag (tag : Tag) : MigrationSuggestion :=
  ⟨tag.id, tag.name, (tag.parameter "trackType").text.uppered⟩

/-- The suggestions for the obsolete tags of a container. -/
def ofContainer (container : Container) : List MigrationSuggestion :=
  (container.tags.filter (·.isUniversalAnalytics)).map ofTag

/-- Does the tag track page views? -/
def tracksPageViews (suggestion : MigrationSuggestion) : Bool :=
  suggestion.trackType == "TRACK_PAGEVIEW"

/-- The name that the replacement may have. -/
def replacementName (suggestion : MigrationSuggestion) : String :=
  if suggestion.tracksPageViews then s!"GA4 - Configuration (from {suggestion.tagName})"
  else s!"GA4 Event - {suggestion.tagName}"

/-- The type of the replacement. -/
def replacementType (suggestion : MigrationSuggestion) : String :=
  if suggestion.tracksPageViews then "googtag" else "gaawe"

/-- A suggestion as a value. -/
def toJson (suggestion : MigrationSuggestion) : Json :=
  .object [("ua_tag_id", .string suggestion.tagId), ("ua_tag_name", .string suggestion.tagName),
    ("track_type", .string suggestion.trackType),
    ("suggested_ga4_name", .string suggestion.replacementName),
    ("ga4_type", .string suggestion.replacementType)]

end MigrationSuggestion

end TagAudit
