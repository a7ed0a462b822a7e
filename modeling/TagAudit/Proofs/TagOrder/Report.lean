import TagAudit.Proofs.IssueIndex.Lookup
import TagAudit.Proofs.TagOrder.Audits

/-!
# Reports on tags in another order

The reports on a container and on the same container with its tags in another order have the same
scores, statistics, headlines and plans, and the same issues up to their order, words and facts.
-/

namespace TagAudit

/-- What lies under a path of keys in a value. -/
def Json.under (value : Json) (path : List String) : Json := path.foldl get value

theorem Json.under_cons (value : Json) (key : String) (path : List String) :
    value.under (key :: path) = (value.get key).under path := rfl

theorem Json.under_nil (value : Json) : value.under [] = value := rfl

/-- What a record is about, its categories and its severity. -/
def IssueRecord.summary (record : IssueRecord) : String × String × List String × String :=
  (record.entityType, record.entityId, record.categories, record.severity)

namespace Audit

/-- The parts of the rules for tags that have no order of tags: statistics and headline. -/
def tagFigures : List (List String) :=
  [["message"], ["tag_rules", "stats"], ["tag_rules", "double_page_view", "status"],
    ["tag_rules", "double_page_view", "detected"],
    ["tag_rules", "double_page_view", "has_history_change"],
    ["tag_rules", "double_page_view", "action"]]

/-- The parts of the coverage of consent that have no order of tags. -/
def consentFigures : List (List String) :=
  [["message"], ["consent_coverage", "checked"], ["consent_coverage", "ok"],
    ["consent_coverage", "missing"], ["consent_coverage", "not_configured"],
    ["consent_coverage", "score"]]

/-- The parts of the quality of triggers that have no order of tags: all but the issues. -/
def triggerFigures : List (List String) :=
  [["message"], ["trigger_quality", "score"], ["trigger_quality", "breakdown"],
    ["trigger_quality", "stats"]]

/-- The parts of the security of scripts that have no order of tags. -/
def scriptFigures : List (List String) :=
  [["message"], ["html_security", "checked"], ["html_security", "critical"],
    ["html_security", "major"], ["html_security", "minor"], ["html_security", "score"]]

/-- The parts of a report that have no order of tags. The quality of variables has none at all. -/
def figures : List (List String) :=
  [["quality_score"], ["action_plan"], ["counts"], ["distribution"], ["unavailable"],
    ["variable_quality"]] ++
  tagFigures.map ("tag_rules" :: ·) ++ consentFigures.map ("consent_mode" :: ·) ++
  triggerFigures.map ("trigger_quality" :: ·) ++ scriptFigures.map ("html_security" :: ·)

/-- No figure is missing from a report. -/
example : ∀ path ∈ figures, ¬ ((ofData Config.default (fun _ => false) .null).toJson.under path)
    matches .null := by
  decide +kernel

/-- Audits with reports that differ in the order of tags and issues and in the words and facts of
issues alone. -/
structure SameVerdicts (a b : Audit) : Prop where
  figures : ∀ path ∈ figures, a.toJson.under path = b.toJson.under path
  counters : ∀ category, a.toJson.under ["issue_index", "counters", category] =
    b.toJson.under ["issue_index", "counters", category]
  byCategory : ∀ category, a.toJson.under ["issue_index", "by_category", category] =
    b.toJson.under ["issue_index", "by_category", category]
  issues : (a.index.records.map IssueRecord.summary).Perm
    (b.index.records.map IssueRecord.summary)

/-- Alike results are shown alike where related ones are. -/
theorem under_resultJson_eq {α : Type} {R : α → α → Prop} {x y : Outcome α} {name : String}
    {json other : α → Json} {message headline : α → StatusMessage} {path : List String}
    (h : Option.Rel R x.result y.result)
    (hpath : ∀ a b, R a b →
      (Json.object [(name, json a), ("message", (message a).toJson)]).under path =
        (Json.object [(name, other b), ("message", (headline b).toJson)]).under path) :
    (resultJson x name json message).under path =
      (resultJson y name other headline).under path := by
  unfold resultJson
  generalize x.result = o, y.result = p at h
  cases h with
  | none => rfl
  | some hab => exact hpath _ _ hab

/-- A path into the index of a report. -/
theorem under_index (audit : Audit) (path : List String) :
    audit.toJson.under ("issue_index" :: path) = audit.index.toJson.under path := by
  have hmember : audit.toJson.get "issue_index" = audit.index.toJson := rfl
  rw [Json.under_cons, hmember]

namespace Alike

variable {a b : Audit} (h : a.Alike b)

include h

theorem under_tagFigures : ∀ path ∈ tagFigures,
    a.toJson.under ("tag_rules" :: path) = b.toJson.under ("tag_rules" :: path) := by
  intro path hp
  refine under_resultJson_eq h.tagRules fun x y hr => ?_
  simp only [tagFigures, List.mem_cons, List.not_mem_nil, or_false] at hp
  rcases hp with rfl | rfl | rfl | rfl | rfl | rfl
  · exact congrArg StatusMessage.toJson hr.message
  · change x.toJson.get "stats" = y.toJson.get "stats"
    simp only [TagRules.toJson, hr.total, hr.paused, hr.obsolete, hr.badlyNamed, hr.untriggered,
      hr.dangling, hr.clean, hr.triggerNaming, hr.variableNaming]
    rfl
  · change x.doublePageView.toJson.get "status" = y.doublePageView.toJson.get "status"
    simp only [DoublePageView.toJson, hr.detected]
    rfl
  · exact congrArg Json.bool hr.detected
  · exact congrArg Json.bool hr.onHistoryChange
  · change x.doublePageView.toJson.get "action" = y.doublePageView.toJson.get "action"
    simp only [DoublePageView.toJson, DoublePageView.action, hr.detected]
    rfl

theorem under_consentFigures : ∀ path ∈ consentFigures,
    a.toJson.under ("consent_mode" :: path) = b.toJson.under ("consent_mode" :: path) := by
  intro path hp
  refine under_resultJson_eq h.consent fun x y hc => ?_
  simp only [consentFigures, List.mem_cons, List.not_mem_nil, or_false] at hp
  rcases hp with rfl | rfl | rfl | rfl | rfl | rfl
  · exact congrArg StatusMessage.toJson (ConsentCoverage.Alike.message hc)
  · exact congrArg Json.nat (ConsentCoverage.Alike.checked hc)
  · exact congrArg Json.nat (ConsentCoverage.Alike.count hc .ok)
  · exact congrArg Json.nat (ConsentCoverage.Alike.count hc .missing)
  · exact congrArg Json.nat (ConsentCoverage.Alike.count hc .notConfigured)
  · exact congrArg Json.number (ConsentCoverage.Alike.score hc)

theorem under_triggerFigures : ∀ path ∈ triggerFigures,
    a.toJson.under ("trigger_quality" :: path) = b.toJson.under ("trigger_quality" :: path) := by
  intro path hp
  refine under_resultJson_eq h.triggerQuality fun x y hq => ?_
  simp only [triggerFigures, List.mem_cons, List.not_mem_nil, or_false] at hp
  rcases hp with rfl | rfl | rfl | rfl
  · exact congrArg StatusMessage.toJson hq.2
  · rw [h.config]
    exact congrArg Json.number (hq.1.score b.config)
  · rw [h.config]
    have haspects := funext (hq.1.aspectJson b.config)
    exact congrArg (Config.tableJson TriggerAspect.all (·.key)) haspects
  · change (x.1.toJson a.config).get "stats" = (y.1.toJson b.config).get "stats"
    simp only [TriggerQuality.toJson, hq.1.total, hq.1.unused, hq.1.onAllPages,
      hq.1.duplicateTotal, hq.1.duplicateGroups, hq.1.historyChange, hq.1.blockingMarketing]
    rfl

theorem under_scriptFigures : ∀ path ∈ scriptFigures,
    a.toJson.under ("html_security" :: path) = b.toJson.under ("html_security" :: path) := by
  intro path hp
  refine under_resultJson_eq h.security fun x y hs => ?_
  simp only [scriptFigures, List.mem_cons, List.not_mem_nil, or_false] at hp
  rcases hp with rfl | rfl | rfl | rfl | rfl | rfl
  · exact congrArg StatusMessage.toJson hs.message
  · exact congrArg Json.nat hs.checked
  · exact congrArg Json.nat (hs.count .critical)
  · exact congrArg Json.nat (hs.count .major)
  · exact congrArg Json.nat (hs.count .minor)
  · rw [h.config]
    exact congrArg Json.number (hs.score b.config)

/-- The reports have the same figures. -/
theorem under_figures : ∀ path ∈ figures, a.toJson.under path = b.toJson.under path := by
  intro path hp
  simp only [figures, List.mem_append, List.mem_map, List.mem_cons, List.not_mem_nil,
    or_false] at hp
  rcases hp with
    ((((rfl | rfl | rfl | rfl | rfl | rfl) | ⟨rest, hr, rfl⟩) | ⟨rest, hr, rfl⟩) |
      ⟨rest, hr, rfl⟩) | ⟨rest, hr, rfl⟩
  · exact congrArg QualityScore.toJson h.score
  · exact congrArg (fun plan => Json.array (plan.map Action.toJson)) h.plan
  · exact h.countsJson
  · exact h.distributionJson
  · exact congrArg Json.strings h.unavailable
  · change resultJson a.variableQuality _ _ _ = resultJson b.variableQuality _ _ _
    rw [resultJson, resultJson, h.variableQuality, h.config]
  · exact h.under_tagFigures rest hr
  · exact h.under_consentFigures rest hr
  · exact h.under_triggerFigures rest hr
  · exact h.under_scriptFigures rest hr

/-- The issues are entered alike. -/
theorem entries_perm : (IssueIndex.entries (a.issues.map Issue.toRecord)).Perm
    (IssueIndex.entries (b.issues.map Issue.toRecord)) := by
  have hentries : ∀ issues : List Issue, IssueIndex.entries (issues.map Issue.toRecord) =
      (issues.map Issue.summary).map fun summary => (summary.2.2.1.name, summary.2.1) := by
    intro issues
    induction issues with
    | nil => rfl
    | cons issue rest ih => exact congrArg (_ :: ·) ih
  rw [hentries, hentries]
  exact h.issues.map _

/-- The records are the same up to their order, words and facts. -/
theorem records_perm : (a.index.records.map IssueRecord.summary).Perm
    (b.index.records.map IssueRecord.summary) := by
  have hrecords : ∀ issues : List Issue,
      (issues.map Issue.toRecord).map IssueRecord.summary =
        (issues.map Issue.summary).map fun summary =>
          (summary.1.name, summary.2.1, [summary.2.2.1.name], summary.2.2.2.name) := by
    intro issues
    rw [List.map_map, List.map_map]
    rfl
  refine ((records_index_perm a).map _).trans (.trans ?_ ((records_index_perm b).map _).symm)
  rw [hrecords, hrecords]
  exact h.issues.map _

theorem sameVerdicts : a.SameVerdicts b where
  figures := h.under_figures
  counters category := by
    rw [under_index, under_index]
    simp only [Json.under_cons, Json.under_nil, Audit.index]
    exact (IssueIndex.toJson_eq_of_perm h.entries_perm category).1
  byCategory category := by
    rw [under_index, under_index]
    simp only [Json.under_cons, Json.under_nil, Audit.index]
    exact (IssueIndex.toJson_eq_of_perm h.entries_perm category).2
  issues := h.records_perm

end Alike

/-- The order of identified tags does not matter to the verdicts of an audit. -/
theorem sameVerdicts_exportWithTags (config : Config) (prevented : Helper → Bool) {data : Json}
    {tags others : List Json} (hsection : (Container.version data).get "tag" = .array tags)
    (hidentified : ∀ raw ∈ tags, Tag.IsIdentified raw) (hperm : tags.Perm others) :
    (ofData config prevented data).SameVerdicts
      (ofData config prevented (Container.exportWithTags data others)) := by
  obtain ⟨reordered, htags, hother⟩ :=
    Container.containerOf_exportWithTags hsection hidentified hperm
  exact (alike_ofData config prevented htags hother).sameVerdicts

/-- A paused tag with an identifier and a tag that has a name alone. -/
def identifiedTags : List Json :=
  [.object [("tagId", .string "1"), ("paused", .bool true), ("firingTriggerId", .string "9")],
    .object [("name", .string "GA4 - PV - Home")]]

/-- The same tags in the other order. -/
def swappedTags : List Json := identifiedTags.reverse

/-- The verdicts on the two tags of the example do not depend on their order. -/
theorem sameVerdicts_swappedTags :
    let auditOf (tags : List Json) : Audit :=
      ofData Config.default (fun _ => false) (.object [("tag", .array tags)])
    (∀ raw ∈ identifiedTags, Tag.IsIdentified raw) ∧ identifiedTags.Perm swappedTags ∧
      (auditOf identifiedTags).SameVerdicts (auditOf swappedTags) := by
  have hidentified : ∀ raw ∈ identifiedTags, Tag.IsIdentified raw := by decide +kernel
  have hperm : identifiedTags.Perm swappedTags := .swap ..
  exact ⟨hidentified, hperm,
    sameVerdicts_exportWithTags Config.default (fun _ => false) rfl hidentified hperm⟩

end Audit

end TagAudit
