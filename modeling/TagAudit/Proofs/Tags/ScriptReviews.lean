import TagAudit.Proofs.Agreement
import TagAudit.Proofs.Distinct
import TagAudit.Proofs.Script.RuleOrder
import TagAudit.Proofs.Severity
import TagAudit.Proofs.Tags.Issues

/-!
# The books of script security

Every script tag is scanned, and one with findings is reviewed: it has the severity of its worst
finding, is counted under that severity and has one issue. So the counters, the details, the issues
and the headline tell the same, and the hosts of all scripts are listed as they are first seen.
-/

namespace TagAudit

/-- The script tags of a container. -/
def Container.scriptTags (container : Container) : List Tag :=
  container.tags.filter (·.kind == "html")

namespace ScriptReview

variable {config : Config} {container : Container} {tag : Tag}

/-- The findings in the script of a tag, as it fires. -/
def scanTag (config : Config) (container : Container) (tag : Tag) :
    Except AnalysisError (List Script.Finding) :=
  Script.scan config (firingFamily container tag) tag.html.toList

/-- A review is of a tag, has all findings in its script and the severity of the worst one. -/
theorem ofTag?_eq_some_iff {review : ScriptReview} :
    ofTag? config container tag = .ok (some review) ↔
      review.tag = tag ∧ review.firesOn = firingFamily container tag ∧
        scanTag config container tag = .ok review.findings ∧
        Script.worst review.findings = some review.severity := by
  rw [ofTag?, Failure.map_eq_ok_iff]
  constructor
  · rintro ⟨findings, hscan, hreview⟩
    obtain ⟨severity, hworst, rfl⟩ := Option.map_eq_some_iff.mp hreview
    exact ⟨rfl, rfl, hscan, hworst⟩
  · rintro ⟨rfl, hfires, hscan, hworst⟩
    refine ⟨review.findings, hscan, ?_⟩
    rw [hworst, Option.map_some, ← hfires]

/-- A script is scanned without findings exactly if its tag has no review. -/
theorem ofTag?_eq_none_iff :
    ofTag? config container tag = .ok none ↔ scanTag config container tag = .ok [] := by
  rw [ofTag?, Failure.map_eq_ok_iff]
  constructor
  · rintro ⟨findings, hscan, hreview⟩
    have hworst := Severity.isWorst_worst (findings.map (·.severity))
    rw [← Script.worst, Option.map_eq_none_iff.mp hreview] at hworst
    rw [← List.map_eq_nil_iff.mp hworst]
    exact hscan
  · intro hscan
    exact ⟨[], hscan, rfl⟩

end ScriptReview

namespace ScriptSecurity

/-- The counters for the severities count every review once. -/
theorem flagged_eq_length (security : ScriptSecurity) :
    security.flagged = security.reviews.length := by
  unfold flagged count
  induction security.reviews with
  | nil => rfl
  | cons review rest ih =>
    rw [List.length_cons, ← ih]
    cases hs : review.severity <;> simp only [List.countP_cons, hs] <;> simp <;> omega

/-- Every review has an issue of its severity. -/
theorem count_eq_countP_issues (security : ScriptSecurity) (severity : Severity) :
    security.count severity = security.issues.countP (·.severity == severity) := by
  rw [count, issues, List.countP_map]
  rfl

/-- A severity is counted exactly if there is an issue of it. -/
theorem count_ne_zero_iff (security : ScriptSecurity) (severity : Severity) :
    security.count severity ≠ 0 ↔ severity ∈ security.issues.map (·.severity) := by
  rw [count_eq_countP_issues, ← Nat.pos_iff_ne_zero, List.countP_pos_iff, List.mem_map]
  simp only [beq_iff_eq]

/-- The status is that of the worst issue. -/
theorem isWorst_status (security : ScriptSecurity) :
    Severity.IsWorst (security.issues.map (·.severity)) security.status :=
  Severity.isWorst_ite (security.count_ne_zero_iff _) (security.count_ne_zero_iff _)
    fun _ _ => security.count_ne_zero_iff _

variable {config : Config} {container : Container} {security : ScriptSecurity}

/-- The books of a security are kept for a container: nothing is lost between scripts, details,
counters, issues and headline. -/
structure KeepsBooks (security : ScriptSecurity) (config : Config) (container : Container) :
    Prop where
  checked : security.checked = container.scriptTags.length
  /-- Every script is scanned, its findings are in order, and any findings make a detail. -/
  scripts : ∀ tag ∈ container.scriptTags, ∃ findings,
    ScriptReview.scanTag config container tag = .ok findings ∧
      Script.InRuleOrder config tag.html.toList findings ∧
      (findings ≠ [] → ∃ review ∈ security.reviews, review.tag = tag ∧ review.findings = findings)
  /-- The tags with findings have the details, in the order of the container. -/
  reviewed : security.reviews.map (·.tag) = container.scriptTags.filter fun tag =>
    (ScriptReview.scanTag config container tag).toOption != some []
  /-- Every detail is of a script and as serious as the worst finding in it. -/
  details : ∀ review ∈ security.reviews, review.tag ∈ container.scriptTags ∧
    ScriptReview.scanTag config container review.tag = .ok review.findings ∧
      Severity.IsWorst (review.findings.map (·.severity)) (some review.severity)
  length_details_le : security.reviews.length ≤ security.checked
  /-- The counter of a severity counts the details of it, and their issues. -/
  counters : ∀ severity,
    security.count severity = security.reviews.countP (·.severity == severity) ∧
      security.count severity = security.issues.countP (·.severity == severity)
  total : security.count .critical + security.count .major + security.count .minor =
    security.reviews.length
  issues : security.issues.length = security.reviews.length
  thirdParties : FirstOccurrences
    (container.scriptTags.flatMap fun tag => Script.hosts tag.html.toList) security.thirdParties
  status : Severity.IsWorst (security.issues.map (·.severity)) security.message.status

variable (h : ofContainer config container = .ok security)

include h

/-- A detail is one of the outcomes for the script tags. -/
theorem mem_reviews_iff {review : ScriptReview} : review ∈ security.reviews ↔
    ∃ tag ∈ container.scriptTags,
      ScriptReview.ofTag? config container tag = .ok (some review) := by
  obtain ⟨outcomes, houtcomes, rfl⟩ := Failure.map_eq_ok_iff.mp h
  rw [Failure.eq_filterMap_of_mapM houtcomes]
  simp only [List.filterMap_filterMap, List.mem_filterMap, Option.bind_eq_some_iff]
  refine exists_congr fun tag => and_congr_right fun _ => ?_
  constructor
  · rintro ⟨_, houtcome, rfl⟩
    exact Failure.toOption_eq_some_iff.mp houtcome
  · exact fun houtcome => ⟨_, Failure.toOption_eq_some_iff.mpr houtcome, rfl⟩

/-- Every script tag has an outcome. -/
theorem exists_ofTag? {tag : Tag} (ht : tag ∈ container.scriptTags) :
    ∃ outcome, ScriptReview.ofTag? config container tag = .ok outcome := by
  obtain ⟨outcomes, houtcomes, -⟩ := Failure.map_eq_ok_iff.mp h
  have hok : (container.scriptTags.mapM (ScriptReview.ofTag? config container)).isOk = true := by
    rw [Container.scriptTags, houtcomes]
    rfl
  rw [Failure.isOk_mapM, List.all_eq_true] at hok
  exact Failure.exists_of_isOk (hok tag ht)

/-- The tags with findings are reviewed, in the order of the container. -/
theorem tags_reviews : security.reviews.map (·.tag) = container.scriptTags.filter fun tag =>
    (ScriptReview.scanTag config container tag).toOption != some [] := by
  have houtcome := fun (tag : Tag) (ht : tag ∈ container.scriptTags) => exists_ofTag? h ht
  obtain ⟨outcomes, houtcomes, rfl⟩ := Failure.map_eq_ok_iff.mp h
  rw [Failure.eq_filterMap_of_mapM houtcomes, ← Container.scriptTags, ← List.filterMap_eq_filter]
  simp only [List.filterMap_filterMap, List.map_filterMap]
  refine List.filterMap_congr fun tag ht => ?_
  obtain ⟨outcome, houtcome⟩ := houtcome tag ht
  rw [houtcome, Option.guard]
  cases outcome with
  | none =>
    rw [ScriptReview.ofTag?_eq_none_iff.mp houtcome]
    rfl
  | some review =>
    obtain ⟨rfl, -, hscan, hworst⟩ := ScriptReview.ofTag?_eq_some_iff.mp houtcome
    have hne : review.findings ≠ [] := by
      intro hnil
      rw [hnil] at hworst
      cases hworst
    rw [hscan]
    simp [Except.toOption, hne]

theorem checked_ofContainer : security.checked = container.scriptTags.length := by
  obtain ⟨_, _, rfl⟩ := Failure.map_eq_ok_iff.mp h
  rfl

theorem thirdParties_ofContainer : security.thirdParties =
    (container.scriptTags.flatMap fun tag => Script.hosts tag.html.toList).eraseDups := by
  obtain ⟨_, _, rfl⟩ := Failure.map_eq_ok_iff.mp h
  rfl

theorem length_reviews_le : security.reviews.length ≤ security.checked := by
  rw [checked_ofContainer h, ← List.length_map (·.tag), tags_reviews h]
  exact List.length_filter_le ..

/-- The findings in a script are in order and make a review, unless there are none. -/
theorem exists_findings {tag : Tag} (ht : tag ∈ container.scriptTags) : ∃ findings,
    ScriptReview.scanTag config container tag = .ok findings ∧
      Script.InRuleOrder config tag.html.toList findings ∧
      (findings ≠ [] →
        ∃ review ∈ security.reviews, review.tag = tag ∧ review.findings = findings) := by
  obtain ⟨outcome, houtcome⟩ := exists_ofTag? h ht
  cases outcome with
  | none =>
    have hscan := ScriptReview.ofTag?_eq_none_iff.mp houtcome
    exact ⟨[], hscan, Script.inRuleOrder_scan hscan, fun hne => absurd rfl hne⟩
  | some review =>
    obtain ⟨htag, -, hscan, -⟩ := ScriptReview.ofTag?_eq_some_iff.mp houtcome
    exact ⟨review.findings, hscan, Script.inRuleOrder_scan hscan,
      fun _ => ⟨review, (mem_reviews_iff h).mpr ⟨tag, ht, houtcome⟩, htag, rfl⟩⟩

/-- A review is of a script tag and as serious as the worst finding. -/
theorem isWorst_of_mem_reviews {review : ScriptReview} (hreview : review ∈ security.reviews) :
    review.tag ∈ container.scriptTags ∧
      ScriptReview.scanTag config container review.tag = .ok review.findings ∧
      Severity.IsWorst (review.findings.map (·.severity)) (some review.severity) := by
  obtain ⟨tag, ht, houtcome⟩ := (mem_reviews_iff h).mp hreview
  obtain ⟨rfl, -, hscan, hworst⟩ := ScriptReview.ofTag?_eq_some_iff.mp houtcome
  exact ⟨ht, hscan, hworst ▸ Severity.isWorst_worst (review.findings.map (·.severity))⟩

/-- The headline is as serious as the worst issue; without scripts there is none. -/
theorem isWorst_message : Severity.IsWorst (security.issues.map (·.severity))
    security.message.status := by
  rw [message]
  split
  next hnone =>
    have hreviews : security.reviews = [] :=
      List.length_eq_zero_iff.mp (Nat.le_zero.mp (hnone ▸ length_reviews_le h))
    rw [ScriptSecurity.issues, hreviews]
    rfl
  next => exact security.isWorst_status

/-- Whenever the scripts of a container can be scanned, the books are kept. -/
theorem keepsBooks_ofContainer : security.KeepsBooks config container where
  checked := checked_ofContainer h
  scripts _ := exists_findings h
  reviewed := tags_reviews h
  details _ := isWorst_of_mem_reviews h
  length_details_le := length_reviews_le h
  counters severity := ⟨rfl, security.count_eq_countP_issues severity⟩
  total := security.flagged_eq_length
  issues := List.length_map _
  thirdParties := thirdParties_ofContainer h ▸ firstOccurrences_eraseDups _
  status := isWorst_message h

omit h

/-- A container with two scripts that have findings, one that has none and a tag without one. -/
def mixedScriptContainer : Container :=
  Container.ofVersion (.object [("tag", .array [
    .object [("tagId", .string "1"), ("type", .string "html"),
      ("html", .string "eval(x); fetch('//px.example.org/p'); setTimeout(f, 10);")],
    .object [("tagId", .string "2"), ("type", .string "gaawe")],
    .object [("tagId", .string "3"), ("type", .string "html"),
      ("html", .string "load('https://cdn.example.com/a.js');")],
    .object [("tagId", .string "4"), ("type", .string "html"),
      ("html", .string "pixel('http://px.example.org/q');")]])])

/-- Its books are kept: one of three scripts is critical and one is major. -/
theorem keepsBooks_mixedScripts : ∃ security,
    ofContainer Config.default mixedScriptContainer = .ok security ∧ security.checked = 3 ∧
      security.reviews.map (·.tag.id) = ["1", "4"] ∧ security.message.status = some .critical ∧
      security.KeepsBooks Config.default mixedScriptContainer := by
  have hrun : (ofContainer Config.default mixedScriptContainer).map (fun security =>
      (security.checked, security.reviews.map (·.tag.id), security.message.status)) =
        .ok (3, ["1", "4"], some .critical) := by
    decide +kernel
  obtain ⟨security, h, hvalues⟩ := Failure.map_eq_ok_iff.mp hrun
  simp only [Prod.mk.injEq] at hvalues
  obtain ⟨hchecked, hreviews, hstatus⟩ := hvalues
  exact ⟨security, h, hchecked, hreviews, hstatus, keepsBooks_ofContainer h⟩

end ScriptSecurity

end TagAudit
