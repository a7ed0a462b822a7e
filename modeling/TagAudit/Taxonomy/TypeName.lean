import TagAudit.Text.LetterCase
import TagAudit.Text.Search

/-!
# Names of types

The names by which types of tags, variables and triggers are presented.
-/

namespace TagAudit.TypeName

/-- Names of tag types. -/
def tagNames : List (String × String) :=
  [("html", "Custom HTML"), ("img", "Custom Image"), ("ua", "Universal Analytics"),
    ("ga", "Google Analytics (Classic)"), ("gaawe", "GA4 Event"), ("googtag", "Google Tag"),
    ("gaawc", "GA4 Configuration"), ("flc", "Floodlight Counter"), ("fls", "Floodlight Sales"),
    ("awct", "Google Ads Conversion"), ("sp", "Google Ads Remarketing"),
    ("gclidw", "Conversion Linker"), ("opt", "Optimize"), ("baut", "Bing Ads"),
    ("hjtc", "Hotjar"), ("ll", "LinkedIn Insight"), ("ta", "TikTok Analytics")]

/-- Names of variable types. -/
def variableNames : List (String × String) :=
  [("v", "Data Layer Variable"), ("k", "Cookie"), ("u", "URL"), ("f", "Referrer"),
    ("e", "Event"), ("j", "JavaScript Variable"), ("jsm", "Custom JavaScript"),
    ("d", "DOM Element"), ("c", "Constant"), ("gas", "Google Analytics Settings"),
    ("r", "Random Number"), ("aev", "Auto-Event Variable"), ("vis", "Element Visibility"),
    ("smm", "Lookup Table"), ("remm", "Regex Table"), ("ed", "Event Data"),
    ("uv", "Undefined Value")]

/-- Names of trigger families. -/
def triggerNames : List (String × String) :=
  [("PAGEVIEW", "Page View"), ("DOM_READY", "DOM Ready"), ("WINDOW_LOADED", "Window Loaded"),
    ("HISTORY_CHANGE", "History Change"), ("CUSTOM_EVENT", "Custom Event"),
    ("CLICK", "Click - All Elements"), ("LINK_CLICK", "Click - Just Links"),
    ("FORM_SUBMISSION", "Form Submission"), ("ELEMENT_VISIBILITY", "Element Visibility"),
    ("SCROLL_DEPTH", "Scroll Depth"), ("TIMER", "Timer"), ("YOU_TUBE_VIDEO", "YouTube Video"),
    ("JS_ERROR", "JavaScript Error"), ("TRIGGER_GROUP", "Trigger Group"),
    ("INIT", "Initialization"), ("CONSENT_INIT", "Consent Initialization")]

/-- The name of a tag type. -/
def ofTag (type : String) : String :=
  if type.beginsWith "cvt_" then "Custom Template Tag"
  else (tagNames.lookup type).getD s!"Unknown Tag ({type})"

/-- The name of a variable type. -/
def ofVariable (type : String) : String :=
  if type.beginsWith "cvt_" then "Custom Template Variable"
  else (variableNames.lookup type).getD s!"Unknown ({type})"

/-- The name of a trigger family; an unknown one is written in title case. -/
def ofTrigger (family : String) : String :=
  (triggerNames.lookup family).getD (if family.isEmpty then "Unknown" else family.titled)

end TagAudit.TypeName
