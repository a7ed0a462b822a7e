import TagAudit.Proofs.Consent.Issues
import TagAudit.Proofs.Consent.Verdicts
import TagAudit.Proofs.Distinct
import TagAudit.Proofs.Taxonomy.Marketing
import TagAudit.Proofs.Triggers.Issues

/-!
# The review of blocking triggers beside the coverage of consent

The triggers that block tags of advertising platforms are counted, each once. Every tag of an
advertising platform is a marketing tag. So wherever both analyses have a result, the coverage of
consent has a verdict on every tag whose blocking triggers are counted, and that verdict lists the
consent that the tag needs.
-/

namespace TagAudit

open Failure

namespace Marketing

/-- Names of categories of consent: at least one, and each once. -/
structure ListsConsent (names : List String) : Prop where
  nonempty : names ≠ []
  nodup : names.Nodup
  subset : names ⊆ ConsentCategory.all.map (·.name)

theorem listsConsent_requiredConsent (tag : Tag) :
    ListsConsent ((requiredConsent tag).map (·.name)) := by
  rcases requiredConsent_eq tag with h | h
  · rw [h]
    exact ⟨by decide, by decide, by decide⟩
  · rw [h]
    exact ⟨by decide, by decide, by decide⟩

end Marketing

theorem ConsentVerdict.tag_ofDeclaration (tag : Tag) (declaration : ConsentDeclaration) :
    (ofDeclaration tag declaration).tag = tag := by
  unfold ofDeclaration
  extract_lets required inferred present missing verdict
  split
  · rfl
  · split
    · rfl
    · split <;> rfl

namespace ConsentCoverage

/-- The details in the value of a coverage. -/
def details (coverage : ConsentCoverage) : List Json := (coverage.toJson.get "details").items

/-- A detail on a tag: it tells which tag it is and lists the consent that the tag needs. -/
structure IsDetailOn (tag : Tag) (detail : Json) : Prop where
  id : detail.get "id" = .string tag.id
  name : detail.get "name" = .string tag.name
  type : detail.get "type" = .string tag.type
  required : ∃ names, detail.get "required" = .strings names ∧ Marketing.ListsConsent names

variable {container : Container} {coverage : ConsentCoverage}

theorem toJson_mem_details {verdict : ConsentVerdict} (hverdict : verdict ∈ coverage.verdicts) :
    verdict.toJson ∈ coverage.details := by
  have hdetails : coverage.details = coverage.verdicts.map ConsentVerdict.toJson := rfl
  rw [hdetails]
  exact List.mem_map_of_mem hverdict

variable (h : ofContainer container = .ok coverage)

include h

/-- The verdicts are those on the marketing tags, in the order of the container. -/
theorem map_tag_verdicts :
    coverage.verdicts.map (·.tag) = container.tags.filter Marketing.isMarketing := by
  obtain ⟨verdicts, hverdicts, rfl⟩ := map_eq_ok_iff.mp h
  refine map_eq_of_mapM hverdicts fun tag verdict hverdict => ?_
  obtain ⟨declaration, -, rfl⟩ := map_eq_ok_iff.mp hverdict
  exact ConsentVerdict.tag_ofDeclaration tag declaration

/-- A verdict lists the consent that its tag needs. -/
theorem required_of_mem_verdicts {verdict : ConsentVerdict}
    (hverdict : verdict ∈ coverage.verdicts) :
    verdict.required = Marketing.requiredConsent verdict.tag := by
  obtain ⟨tag, -, declaration, rfl⟩ := exists_of_mem_verdicts h hverdict
  rw [ConsentVerdict.required_ofDeclaration, ConsentVerdict.tag_ofDeclaration]

/-- There is a verdict on every marketing tag. -/
theorem exists_verdict {tag : Tag} (htag : tag ∈ container.tags)
    (hmarketing : Marketing.isMarketing tag = true) :
    ∃ verdict ∈ coverage.verdicts, verdict.tag = tag := by
  have hmem : tag ∈ coverage.verdicts.map (·.tag) := by
    rw [map_tag_verdicts h]
    exact List.mem_filter.mpr ⟨htag, hmarketing⟩
  exact List.mem_map.mp hmem

/-- A verdict as a value is a detail on its tag. -/
theorem isDetailOn_of_mem_verdicts {verdict : ConsentVerdict}
    (hverdict : verdict ∈ coverage.verdicts) : IsDetailOn verdict.tag verdict.toJson := by
  refine ⟨rfl, rfl, rfl, verdict.required.map (·.name), rfl, ?_⟩
  rw [required_of_mem_verdicts h hverdict]
  exact Marketing.listsConsent_requiredConsent verdict.tag

end ConsentCoverage

namespace TriggerQuality

/-- The coverage of consent lists the tags whose blocking triggers are counted. -/
structure ReviewsListed (container : Container) (quality : TriggerQuality)
    (coverage : ConsentCoverage) : Prop where
  /-- Those triggers are counted that block a tag of an advertising platform. -/
  counted : ∃ ids : List String, ids.Nodup ∧ quality.blockingMarketing = ids.length ∧
    ∀ id, id ∈ ids ↔
      ∃ tag ∈ container.tags, Marketing.isAdPlatform tag = true ∧ id ∈ tag.blockingTriggerIds
  /-- The count in the value, for any settings. -/
  stated : ∀ config, ((quality.toJson config).get "stats").get "with_blocking_on_marketing" =
    .nat quality.blockingMarketing
  listed : ∀ tag ∈ container.tags, Marketing.isAdPlatform tag = true →
    tag.blockingTriggerIds ≠ [] → ∃ verdict ∈ coverage.verdicts, verdict.tag = tag ∧
      verdict.toJson ∈ coverage.details ∧ ConsentCoverage.IsDetailOn tag verdict.toJson

/-- A trigger blocks a reviewed tag exactly if it blocks a tag of an advertising platform. -/
theorem mem_flatMap_reviewedTags_iff {container : Container} {id : String} :
    id ∈ (reviewedTags container).flatMap (·.blockingTriggerIds) ↔
      ∃ tag ∈ container.tags, Marketing.isAdPlatform tag = true ∧ id ∈ tag.blockingTriggerIds := by
  simp only [reviewedTags, List.mem_flatMap, List.mem_filter, Bool.and_eq_true, Bool.not_eq_true',
    List.isEmpty_eq_false_iff, and_assoc]
  refine exists_congr fun tag => and_congr_right fun _ => ?_
  constructor
  · rintro ⟨-, hadvertises, hblocks⟩
    exact ⟨hadvertises, hblocks⟩
  · rintro ⟨hadvertises, hblocks⟩
    exact ⟨List.ne_nil_of_mem hblocks, hadvertises, hblocks⟩

theorem exists_counted {container : Container} {referenced : List String}
    {quality : TriggerQuality} (h : ofContainer container referenced = .ok quality) :
    ∃ ids : List String, ids.Nodup ∧ quality.blockingMarketing = ids.length ∧
      ∀ id, id ∈ ids ↔ ∃ tag ∈ container.tags,
        Marketing.isAdPlatform tag = true ∧ id ∈ tag.blockingTriggerIds := by
  obtain ⟨blockings, judged, -, rfl⟩ := exists_of_ofContainer_eq_ok h
  refine ⟨_, nodup_eraseDups _, rfl, fun id => ?_⟩
  rw [List.mem_eraseDups, mem_flatMap_reviewedTags_iff]

/-- Every tag of an advertising platform is a marketing tag, so the coverage of consent lists all
tags whose blocking triggers are counted. -/
theorem reviews_listed_tags :
    (∀ tag, Marketing.isAdPlatform tag = true → Marketing.isMarketing tag = true) ∧
      ∀ container referenced coverage quality,
        ConsentCoverage.ofContainer container = .ok coverage →
          ofContainer container referenced = .ok quality →
            ReviewsListed container quality coverage := by
  refine ⟨fun _ => Marketing.isMarketing_of_isAdPlatform, ?_⟩
  intro container referenced coverage quality hcoverage hquality
  refine ⟨exists_counted hquality, fun _ => rfl, fun tag htag hadvertises _ => ?_⟩
  obtain ⟨verdict, hverdict, rfl⟩ := ConsentCoverage.exists_verdict hcoverage htag
    (Marketing.isMarketing_of_isAdPlatform hadvertises)
  exact ⟨verdict, hverdict, rfl, ConsentCoverage.toJson_mem_details hverdict,
    ConsentCoverage.isDetailOn_of_mem_verdicts hcoverage hverdict⟩

/-- A container with a script of an advertising platform that a trigger blocks. -/
def blockedScriptContainer : Container :=
  Container.ofVersion (.object [
    ("tag", .array [.object [("tagId", .string "1"), ("name", .string "insight"),
      ("type", .string "html"), ("html", .string "//PX.ads.linkedin.com"),
      ("firingTriggerId", .string "2147479553"), ("blockingTriggerId", .string "5")]]),
    ("trigger", .array [.object [("triggerId", .string "5"), ("type", .string "pageview")]])])

/-- The trigger that blocks the script is counted, and there is a verdict on the script. -/
theorem reviews_listed_blockedScript : ∃ coverage quality,
    ConsentCoverage.ofContainer blockedScriptContainer = .ok coverage ∧
      ofContainer blockedScriptContainer ["5"] = .ok quality ∧
      quality.blockingMarketing = 1 ∧ coverage.checked = 1 ∧
      ReviewsListed blockedScriptContainer quality coverage := by
  have hcoverage :
      (ConsentCoverage.ofContainer blockedScriptContainer).map (·.checked) = .ok 1 := by
    decide +kernel
  have hquality : (ofContainer blockedScriptContainer ["5"]).map (·.blockingMarketing) = .ok 1 := by
    decide +kernel
  obtain ⟨coverage, hcoverage, hchecked⟩ := map_eq_ok_iff.mp hcoverage
  obtain ⟨quality, hquality, hblocking⟩ := map_eq_ok_iff.mp hquality
  exact ⟨coverage, quality, hcoverage, hquality, hblocking, hchecked,
    reviews_listed_tags.2 _ _ _ _ hcoverage hquality⟩

end TriggerQuality

end TagAudit
