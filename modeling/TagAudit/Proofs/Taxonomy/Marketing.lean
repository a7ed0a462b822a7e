import TagAudit.Proofs.Pattern.Search
import TagAudit.Taxonomy.Marketing

/-!
# Marketing tags and advertising tags

Every tag of an advertising platform is a marketing tag: the types, snippets and keywords of the
former are among those of the latter. A marketing tag needs either what analytics needs or what
advertising needs. On tags with a script of their own the two classifications do not agree
everywhere: the script that names the host of an advertising platform needs what advertising needs
exactly if it also has one of a few words, spelled in lower case.
-/

namespace TagAudit.Marketing

open ConsentCategory

variable {tag : Tag} {kind script : String}

section Types

/-- A tag type needs consent as such exactly if it is a marketing type. -/
theorem isSome_consentOfType?_iff : (consentOfType? kind).isSome = true ↔
    ∃ entry ∈ consentByType, entry.1.covers kind = true := by
  rw [consentOfType?, Option.isSome_map, List.find?_isSome]

/-- The types of advertising tools are marketing types. -/
theorem isSome_consentOfType?_of_adTypes (h : adTypes.any (·.covers kind) = true) :
    (consentOfType? kind).isSome = true := by
  have hsubset : ∀ pattern ∈ adTypes, ∃ entry ∈ consentByType, entry.1 = pattern := by decide
  obtain ⟨pattern, hpattern, hcovers⟩ := List.any_eq_true.mp h
  obtain ⟨entry, hentry, rfl⟩ := hsubset pattern hpattern
  exact isSome_consentOfType?_iff.mpr ⟨entry, hentry, hcovers⟩

/-- A marketing type needs what analytics needs or what advertising needs. -/
theorem consentOfType?_eq {consents : List ConsentCategory}
    (h : consentOfType? kind = some consents) : consents = analytics ∨ consents = advertising := by
  have hentries : ∀ entry ∈ consentByType, entry.2 = analytics ∨ entry.2 = advertising := by decide
  obtain ⟨entry, hentry, rfl⟩ := Option.map_eq_some_iff.mp h
  exact hentries entry (List.mem_of_find?_eq_some hentry)

end Types

section Inclusion

/-- More keywords are mentioned by more tags. -/
theorem mentions_mono {few many : List String} (hsubset : few ⊆ many)
    (h : mentions tag few = true) : mentions tag many = true := by
  obtain ⟨keyword, hkeyword, hmentioned⟩ := List.any_eq_true.mp h
  exact List.any_eq_true.mpr ⟨keyword, hsubset hkeyword, hmentioned⟩

/-- A tag of an advertising platform is a marketing tag. -/
theorem isMarketing_of_isAdPlatform (h : isAdPlatform tag = true) : isMarketing tag = true := by
  rw [isMarketing, Bool.or_eq_true, Bool.or_eq_true]
  unfold isAdPlatform at h
  split at h
  next htype => exact .inl (.inl (isSome_consentOfType?_of_adTypes htype))
  next =>
    split at h
    next hscript =>
      obtain ⟨hhtml, -⟩ := (Bool.and_eq_true ..).mp hscript
      refine .inl (.inr ((Bool.and_eq_true ..).mpr ⟨hhtml, ?_⟩))
      exact (Bool.or_eq_true ..).mpr (.inl h)
    next => exact .inr (mentions_mono (List.subset_append_left ..) h)

/-- A tag needs what analytics needs or what advertising needs. -/
theorem requiredConsent_eq (tag : Tag) :
    requiredConsent tag = analytics ∨ requiredConsent tag = advertising := by
  unfold requiredConsent
  split
  next consents htype => exact consentOfType?_eq htype
  next =>
    split
    · split
      · exact .inr rfl
      · exact .inl rfl
    · split
      · exact .inl rfl
      · exact .inr rfl

end Inclusion

section Scripts

/-- The hosts of advertising platforms that have a marker in their names. -/
def markedHosts : List String :=
  ["connect.facebook.net", "googleads.g.doubleclick.net", "fls.doubleclick.net", "bat.bing.com"]

/-- The hosts of all advertising platforms. -/
def adHosts : List String := markedHosts ++ ["analytics.tiktok.com", "px.ads.linkedin.com"]

/-- A script names the host of an advertising platform, in any letter case. -/
def NamesAdHost (script : String) : Prop :=
  ∃ host ∈ adHosts, ∃ spelling, spelling <:+: script.toList ∧
    spelling.map Text.fold = host.toList

/-- A script has one of the words that tell an advertising platform, as it is spelled. -/
def HasMarker (script : String) : Prop :=
  ∃ marker ∈ adMarkers, marker.toList <:+: script.toList

/-- A text is found in any letter case exactly if a spelling of it is part of the script. -/
theorem occursIn_anyCase_iff {text : String} {s : List Char} :
    (Pattern.anyCase text).occursIn s = true ↔
      ∃ spelling, spelling <:+: s ∧ spelling.map Text.fold = text.toList := by
  rw [Pattern.occursIn_iff]
  simp only [(Pattern.accepts_anyCase text).holdsAt_iff]
  constructor
  · rintro ⟨passed, rest, rfl, spelling, hspelling, hstarts⟩
    exact ⟨spelling, hstarts.isInfix.trans (List.suffix_append ..).isInfix, hspelling⟩
  · rintro ⟨spelling, ⟨passed, rest, rfl⟩, hspelling⟩
    exact ⟨passed, spelling ++ rest, List.append_assoc .., spelling, hspelling,
      List.prefix_append ..⟩

theorem holdsSnippet_adSnippets_iff :
    holdsSnippet adSnippets script = true ↔ NamesAdHost script := by
  have hsnippets : adSnippets = adHosts.map Pattern.anyCase := rfl
  rw [holdsSnippet, hsnippets, List.any_map, List.any_eq_true]
  exact exists_congr fun host => and_congr_right fun _ => occursIn_anyCase_iff

theorem hasMarker_iff :
    adMarkers.any (script.hasText ·) = true ↔ HasMarker script := by
  rw [List.any_eq_true]
  exact exists_congr fun marker => and_congr_right fun _ => Text.occursIn_iff

/-- A script that names a host is not empty. -/
theorem NamesAdHost.isEmpty_eq_false (h : NamesAdHost script) : script.isEmpty = false := by
  have hhosts : ∀ host ∈ adHosts, host.toList ≠ [] := by decide
  obtain ⟨host, hhost, spelling, hinfix, hspelling⟩ := h
  refine Bool.eq_false_iff.mpr fun hempty => hhosts host hhost ?_
  rw [String.isEmpty_iff.mp hempty] at hinfix
  rw [← hspelling, List.infix_nil.mp hinfix]
  rfl

variable (hhtml : tag.isCustomHtml = true)

include hhtml

theorem kind_of_isCustomHtml : tag.kind = "html" := beq_iff_eq.mp hhtml

/-- A tag with a script of its own belongs to an advertising platform exactly if the script names
the host of one. -/
theorem isAdPlatform_iff_namesAdHost (hscript : tag.html.isEmpty = false) :
    isAdPlatform tag = true ↔ NamesAdHost tag.html := by
  have htype : adTypes.any (·.covers tag.kind) = false := by
    rw [kind_of_isCustomHtml hhtml]
    decide
  rw [← holdsSnippet_adSnippets_iff]
  simp only [isAdPlatform, htype, hhtml, hscript, Bool.not_false, Bool.and_self, if_true,
    Bool.false_eq_true, if_false]

/-- A script needs what advertising needs unless it is a marketing script without a marker. -/
theorem requiredConsent_eq_advertising_iff : requiredConsent tag = advertising ↔
    (isMarketingScript tag.html = true → HasMarker tag.html) := by
  have htype : consentOfType? tag.kind = none := by
    rw [kind_of_isCustomHtml hhtml]
    decide
  have hother : (["ga4", "gtag", "gaawe"].any (tag.kind.hasText ·) || tag.kind == "googtag") =
      false := by
    rw [kind_of_isCustomHtml hhtml]
    decide
  have hdiffer : analytics ≠ advertising := by decide
  rw [← hasMarker_iff]
  simp only [requiredConsent, htype, hother, hhtml, Bool.true_and, Bool.false_eq_true, if_false]
  cases isMarketingScript tag.html <;> cases adMarkers.any (tag.html.hasText ·) <;> simp [hdiffer]

omit hhtml

/-- A tag of the type for scripts with nothing but its script. -/
def scriptTag (script : String) : Tag :=
  Tag.ofJson (.object [("type", .string "html"), ("html", .string script)]) 0

theorem isCustomHtml_scriptTag (script : String) : (scriptTag script).isCustomHtml = true := by
  have htype : (scriptTag script).type = "html" := rfl
  rw [Tag.isCustomHtml, Tag.kind, htype]
  decide

theorem html_scriptTag (script : String) : (scriptTag script).html = script := by
  have hhtml : (scriptTag script).html =
      if script.isEmpty then ((scriptTag script).parameter "html").text else script := rfl
  rw [hhtml]
  split
  next hempty => rw [String.isEmpty_iff.mp hempty]; rfl
  next => rfl

/-- The two classifications agree on a script: a tag with this script that belongs to an
advertising platform needs what advertising needs. -/
def Agrees (script : String) : Prop :=
  ∀ tag : Tag, tag.isCustomHtml = true → tag.html = script → isAdPlatform tag = true →
    requiredConsent tag = advertising

theorem agrees_of_hasMarker (hmarker : NamesAdHost script → HasMarker script) :
    Agrees script := by
  rintro tag hhtml rfl had
  refine (requiredConsent_eq_advertising_iff hhtml).mpr fun hmarketing => ?_
  cases hempty : tag.html.isEmpty with
  | true =>
    rw [String.isEmpty_iff.mp hempty] at hmarketing
    have hnone : isMarketingScript "" = false := by decide
    rw [hnone] at hmarketing
    cases hmarketing
  | false => exact hmarker ((isAdPlatform_iff_namesAdHost hhtml hempty).mp had)

theorem Agrees.hasMarker (h : Agrees script) (hnames : NamesAdHost script) :
    HasMarker script := by
  have hhtml := isCustomHtml_scriptTag script
  have hmarketing : isMarketingScript script = true :=
    (Bool.or_eq_true ..).mpr (.inl (holdsSnippet_adSnippets_iff.mpr hnames))
  rw [← html_scriptTag script] at hnames hmarketing ⊢
  have had := (isAdPlatform_iff_namesAdHost hhtml hnames.isEmpty_eq_false).mpr hnames
  have hneeds := h (scriptTag script) hhtml (html_scriptTag script) had
  exact (requiredConsent_eq_advertising_iff hhtml).mp hneeds hmarketing

/-- The two classifications agree on a script exactly if it names no host of an advertising
platform or has a marker as well. -/
theorem agrees_iff (script : String) : Agrees script ↔ (NamesAdHost script → HasMarker script) :=
  ⟨Agrees.hasMarker, agrees_of_hasMarker⟩

/-- They agree wherever the host of Facebook, Google Ads, Floodlight or Bing is spelled in lower
case, whatever else the script contains. -/
theorem agrees_of_markedHost {host : String} (hhost : host ∈ markedHosts)
    (h : host.toList <:+: script.toList) : Agrees script := by
  have hmarkers : ∀ host ∈ markedHosts, ∃ marker ∈ adMarkers, marker.toList <:+: host.toList := by
    decide
  obtain ⟨marker, hmarker, hinfix⟩ := hmarkers host hhost
  exact agrees_of_hasMarker fun _ => ⟨marker, hmarker, hinfix.trans h⟩

/-- A script that loads the pixel of TikTok. -/
def tikTokScript : String :=
  "<script src=\"https://analytics.tiktok.com/i18n/pixel/events.js\"></script>"

/-- It belongs to an advertising platform and is taken for analytics. -/
theorem not_agrees_tikTokScript : ¬ Agrees tikTokScript := by
  intro hagrees
  have had : isAdPlatform (scriptTag tikTokScript) = true := by decide +kernel
  have hneeds := hagrees (scriptTag tikTokScript) (isCustomHtml_scriptTag _) (html_scriptTag _) had
  have hanalytics : requiredConsent (scriptTag tikTokScript) = analytics := by decide +kernel
  rw [hanalytics] at hneeds
  cases hneeds

end Scripts

end TagAudit.Marketing
