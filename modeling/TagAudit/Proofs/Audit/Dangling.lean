import TagAudit.Proofs.Audit.Addressing

/-!
# Dangling references

What an audit reports of references to nothing. Placeholders that stand for nothing are reported on
every entity that has them and nowhere else. A trigger identifier without a trigger is reported
where a tag lists it. The members of a trigger group are references as well, yet nothing is reported
of them, so all references to missing triggers are reported only if tags list them all.
-/

namespace TagAudit

/-- A trigger identifier that neither a trigger of the container nor a built-in one has. -/
def Container.IsDangling (container : Container) (id : String) : Prop :=
  (∀ trigger ∈ container.triggers, trigger.id ≠ id) ∧ Builtin.isTriggerId id = false

instance (container : Container) (id : String) : Decidable (container.IsDangling id) :=
  inferInstanceAs (Decidable (_ ∧ _))

/-- A name that no variable has, no known or enabled built-in variable has, and that does not begin
with an underscore. -/
def Container.IsUnresolved (container : Container) (name : String) : Prop :=
  (∀ self ∈ container.userVariables, self.name ≠ name) ∧
    Builtin.isVariableName name container.builtinNames = false ∧ name.beginsWith "_" = false

namespace IssueRecord

/-- A record that has a trigger identifier among its facts. -/
def ReportsTrigger (record : IssueRecord) (id : String) : Prop :=
  ∃ ids, record.facts.lookup "trigger_ids" = some (.strings ids) ∧ id ∈ ids

/-- A record of an unresolved reference of an entity to a name. -/
structure ReportsName (record : IssueRecord) (kind : EntityKind) (id name : String) : Prop where
  categories : record.categories = ["unresolved_reference"]
  entityType : record.entityType = kind.name
  entityId : record.entityId = id
  reference : record.facts.lookup "reference" = some (.string name)

end IssueRecord

variable {config : Config} {container : Container}

namespace TagRules

/-- The dangling identifiers of a tag are those that it lists. -/
theorem mem_danglingIds_iff {tag : Tag} {id : String} :
    id ∈ danglingIds container tag ↔
      (id ∈ tag.firingTriggerIds ∨ id ∈ tag.blockingTriggerIds) ∧ container.IsDangling id := by
  simp only [danglingIds, Container.IsDangling, List.mem_filter, List.mem_append,
    Bool.and_eq_true, Bool.not_eq_true', List.contains_eq_mem, decide_eq_false_iff_not,
    List.mem_map, not_exists, not_and, ne_eq]

/-- A tag has an issue of dangling identifiers exactly if it lists some. -/
private theorem facts_of_mem_issuesOfTag {double : DoublePageView} {tag : Tag} {issue : Issue}
    (hi : issue ∈ issuesOfTag config container double tag)
    (hc : issue.category = .danglingTrigger) :
    issue.facts = [("trigger_ids", .strings (danglingIds container tag))] := by
  simp only [issuesOfTag, issueIf, List.mem_append, Option.mem_toList, List.mem_ite_nil_right,
    List.mem_singleton] at hi
  rcases hi with ((((⟨-, rfl⟩ | ⟨-, rfl⟩) | h) | ⟨-, rfl⟩) | ⟨-, rfl⟩) | ⟨-, rfl⟩
  case inl.inl.inl.inr =>
    rw [namingIssue?_eq] at h
    split at h <;> cases h
    cases hc
  case inl.inr => rfl
  all_goals cases hc

/-- The issues of dangling identifiers list those of the tags. -/
theorem exists_of_mem_issues {issue : Issue} (hi : issue ∈ (ofContainer config container).issues)
    (hc : issue.category = .danglingTrigger) : ∃ tag ∈ container.tags,
      issue.facts = [("trigger_ids", .strings (danglingIds container tag))] := by
  have hnaming : ∀ {kind},
      issue ∉ (container.entities kind).filterMap (namingIssue? config kind) := by
    intro kind h
    rw [category_of_mem_filterMap h] at hc
    cases hc
  rcases List.mem_append.mp hi with h | h
  · obtain ⟨tag, ht, h⟩ := List.mem_flatMap.mp h
    exact ⟨tag, ht, facts_of_mem_issuesOfTag h hc⟩
  · exact ((List.mem_append.mp h).elim hnaming hnaming).elim

/-- A tag with a dangling identifier has an issue that lists it. -/
theorem exists_mem_issues {tag : Tag} (ht : tag ∈ container.tags)
    (hd : danglingIds container tag ≠ []) : ∃ issue ∈ (ofContainer config container).issues,
      issue.facts = [("trigger_ids", .strings (danglingIds container tag))] := by
  let issue := tagIssue tag .danglingTrigger .major
    ("References trigger id(s) not in the container: " ++
      ", ".intercalate (danglingIds container tag))
    "Remove or replace the missing trigger references"
    [("trigger_ids", .strings (danglingIds container tag))]
  have hmem : issue ∈
      issuesOfTag config container (DoublePageView.ofContainer container) tag := by
    simp only [issuesOfTag, List.mem_append]
    refine Or.inl (Or.inr ?_)
    rw [issueIf, if_pos (by simpa using hd)]
    exact List.mem_singleton_self _
  exact ⟨issue, List.mem_append_left _ (List.mem_flatMap.mpr ⟨tag, ht, hmem⟩), rfl⟩

end TagRules

namespace UsageGraph

/-- What stands for nothing is unresolved. -/
theorem isResolved_eq_false_iff {name : String} :
    isResolved container name = false ↔ container.IsUnresolved name := by
  simp only [isResolved, Container.IsUnresolved, Bool.or_eq_false_iff, List.contains_eq_mem,
    decide_eq_false_iff_not, List.mem_map, not_exists, not_and, ne_eq, and_assoc,
    @and_comm (name.beginsWith "_" = false)]

/-- The unresolved references are those of the entities in which an unresolved name is found. -/
theorem mem_unresolvedIssues_iff {depth : Nat} {issue : Issue} :
    issue ∈ unresolvedIssues container (ofContainer container depth) ↔
      ∃ kind, ∃ entity ∈ entitiesOf container kind,
        ∃ name ∈ Placeholder.collect depth entity.2.2, container.IsUnresolved name ∧
          unresolvedIssue container name kind entity.1 = issue := by
  simp only [unresolvedIssues, List.mem_flatMap, List.mem_filter, List.mem_mergeSort,
    List.mem_map, Bool.not_eq_true', isResolved_eq_false_iff]
  constructor
  · rintro ⟨name, ⟨-, hu⟩, ⟨kind, id⟩, hr, rfl⟩
    obtain ⟨entity, he, rfl, hn⟩ := mem_referrers_ofContainer.mp hr
    exact ⟨kind, entity, he, name, hn, hu, rfl⟩
  · rintro ⟨kind, entity, he, name, hn, hu, rfl⟩
    have hnode := mem_nodeNames_ofContainer.mpr ⟨kind, entity, he, hn⟩
    have hreferrer := mem_referrers_ofContainer.mpr ⟨entity, he, rfl, hn⟩
    exact ⟨name, ⟨hnode, hu⟩, (kind, entity.1), hreferrer, rfl⟩

end UsageGraph

namespace Audit

/-- An audit that reports every reference to nothing. -/
structure ReportsDangling (audit : Audit) : Prop where
  /-- A referenced trigger that is missing is named by some record. -/
  triggers : ∀ id ∈ (graph audit.config audit.container).referencedTriggerIds,
    audit.container.IsDangling id → ∃ record ∈ audit.index.records, record.ReportsTrigger id
  /-- An unresolved name that is found in an entity is reported on it. -/
  names : ∀ kind, ∀ entity ∈ UsageGraph.entitiesOf audit.container kind,
    ∀ name ∈ Placeholder.collect audit.config.maxParameterDepth entity.2.2,
      audit.container.IsUnresolved name →
        ∃ record ∈ audit.index.records, record.ReportsName kind entity.1 name
  /-- Nothing else is reported as unresolved. -/
  onlyNames : ∀ record ∈ audit.index.records, record.categories = ["unresolved_reference"] →
    ∃ kind, ∃ entity ∈ UsageGraph.entitiesOf audit.container kind,
      ∃ name ∈ Placeholder.collect audit.config.maxParameterDepth entity.2.2,
        audit.container.IsUnresolved name ∧ record.ReportsName kind entity.1 name

variable {prevented : Helper → Bool} {data : Json}

/-- The records of an index are those of the issues. -/
theorem mem_records_iff {audit : Audit} {record : IssueRecord} :
    record ∈ audit.index.records ↔ ∃ issue ∈ audit.issues, issue.toRecord = record :=
  (records_index_perm audit).mem_iff.trans List.mem_map

/-- An issue was found by the finder of its category. -/
theorem mem_issuesOf_finder {issue : Issue} (hi : issue ∈ (ofData config prevented data).issues) :
    issue ∈ (ofData config prevented data).issuesOf issue.category.finder := by
  rw [issues_eq_flatMap] at hi
  obtain ⟨helper, -, hi⟩ := List.mem_flatMap.mp hi
  rwa [finder_of_mem_issuesOf hi]

/-- What a finder found is an issue of the audit. -/
theorem mem_issues_of_mem_issuesOf (helper : Helper) (hf : helper ∈ finders) {issue : Issue}
    (hi : issue ∈ (ofData config prevented data).issuesOf helper) :
    issue ∈ (ofData config prevented data).issues := by
  rw [issues_eq_flatMap]
  exact List.mem_flatMap.mpr ⟨helper, hf, hi⟩

/-- Only issues of dangling identifiers have trigger identifiers among their facts. -/
private theorem category_eq_of_mem_factNames {category : Category}
    (h : "trigger_ids" ∈ category.factNames) : category = .danglingTrigger := by
  have hall : ∀ other ∈ Category.all, "trigger_ids" ∈ other.factNames → other = .danglingTrigger := by
    decide
  exact hall category (Category.mem_all category) h

/-- A trigger identifier that a record reports is dangling and listed by a tag. -/
theorem exists_of_reportsTrigger {record : IssueRecord} {id : String}
    (hr : record ∈ (ofData config prevented data).index.records) (h : record.ReportsTrigger id) :
    (∃ tag ∈ (containerOf data).tags,
      id ∈ tag.firingTriggerIds ∨ id ∈ tag.blockingTriggerIds) ∧
      (containerOf data).IsDangling id := by
  obtain ⟨issue, hi, rfl⟩ := mem_records_iff.mp hr
  obtain ⟨ids, hl, hid⟩ := h
  have hfact : "trigger_ids" ∈ issue.category.factNames := by
    rw [← (regular_of_mem_issues hi).facts]
    obtain ⟨before, after, hfacts, -⟩ := List.lookup_eq_some_iff.mp hl
    exact List.mem_map.mpr ⟨_, hfacts ▸ List.mem_append_right _ (List.mem_cons_self ..), rfl⟩
  -- only the rules for tags report trigger identifiers, and no member of a group is among theirs
  have hc := category_eq_of_mem_factNames hfact
  have hfound := mem_issuesOf_finder hi
  rw [hc] at hfound
  obtain ⟨rules, hrules, hfound⟩ := mem_issuesFrom_iff.mp hfound
  rw [← eq_of_tagRules hrules] at hfound
  obtain ⟨tag, ht, hfacts⟩ := TagRules.exists_of_mem_issues hfound hc
  have hl' : issue.facts.lookup "trigger_ids" = some (.strings ids) := hl
  rw [hfacts, List.lookup_cons_self] at hl'
  have hids : TagRules.danglingIds (containerOf data) tag = ids :=
    List.map_injective_iff.mpr (fun _ _ => Json.string.inj)
      (Json.array.inj (Option.some.inj hl'))
  obtain ⟨hlisted, hd⟩ := TagRules.mem_danglingIds_iff.mp (hids ▸ hid)
  exact ⟨⟨tag, ht, hlisted⟩, hd⟩

/-- A record of an unresolved reference is that of an unresolved name in an entity. -/
theorem exists_of_unresolved {record : IssueRecord}
    (hr : record ∈ (ofData config prevented data).index.records)
    (hc : record.categories = ["unresolved_reference"]) :
    ∃ kind, ∃ entity ∈ UsageGraph.entitiesOf (containerOf data) kind,
      ∃ name ∈ Placeholder.collect config.maxParameterDepth entity.2.2,
        (containerOf data).IsUnresolved name ∧ record.ReportsName kind entity.1 name := by
  obtain ⟨issue, hi, rfl⟩ := mem_records_iff.mp hr
  have hcategory : issue.category = .unresolvedReference :=
    Category.name_injective (List.singleton_inj.mp hc)
  have hfound := mem_issuesOf_finder hi
  rw [hcategory] at hfound
  obtain ⟨unresolved, hu, hfound⟩ := mem_issuesFrom_iff.mp hfound
  obtain ⟨kind, entity, he, name, hn, hname, rfl⟩ :=
    UsageGraph.mem_unresolvedIssues_iff.mp (mem_unresolvedIssues_of_unresolved hu hfound)
  exact ⟨kind, entity, he, name, hn, hname, rfl, rfl, rfl, rfl⟩

section Complete

variable (complete : (ofData config prevented data).failures = [])

include complete

theorem tagRules_of_complete : (ofData config prevented data).tagRules.result =
    some (TagRules.ofContainer config (containerOf data)) := by
  have hf : (ofData config prevented data).tagRules.result.isNone = false :=
    hasFailed_eq_false complete .tagRules
  rw [tagRules_ofData] at hf ⊢
  cases hp : prevented .tagRules with
  | true => simp [hp] at hf
  | false => rfl

theorem unresolved_of_complete : (ofData config prevented data).unresolved.result =
    some (UsageGraph.unresolvedIssues (containerOf data) (graph config (containerOf data))) := by
  have hu : (ofData config prevented data).usage.result.isNone = false :=
    hasFailed_eq_false complete .usageGraph
  have hf : (ofData config prevented data).unresolved.result.isNone = false :=
    hasFailed_eq_false complete .unresolvedReferences
  rw [usage_ofData] at hu
  rw [unresolved_ofData] at hf ⊢
  cases hg : prevented .usageGraph with
  | true => simp [hg] at hu
  | false =>
    cases hp : prevented .unresolvedReferences with
    | true => simp [hg, hp] at hf
    | false => rfl

/-- A dangling identifier that a tag lists is reported. -/
theorem exists_reportsTrigger {tag : Tag} (ht : tag ∈ (containerOf data).tags) {id : String}
    (hlisted : id ∈ tag.firingTriggerIds ∨ id ∈ tag.blockingTriggerIds)
    (hd : (containerOf data).IsDangling id) :
    ∃ record ∈ (ofData config prevented data).index.records, record.ReportsTrigger id := by
  have hid := TagRules.mem_danglingIds_iff.mpr ⟨hlisted, hd⟩
  obtain ⟨issue, hi, hfacts⟩ := TagRules.exists_mem_issues ht (List.ne_nil_of_mem hid)
  have hfound := mem_issuesFrom_iff.mpr ⟨_, tagRules_of_complete complete, hi⟩
  have hissue := mem_issues_of_mem_issuesOf .tagRules (by decide) hfound
  refine ⟨issue.toRecord, mem_records_iff.mpr ⟨issue, hissue, rfl⟩, _, ?_, hid⟩
  rw [Issue.toRecord, hfacts, List.lookup_cons_self]

/-- An unresolved name that is found in an entity is reported on it. -/
theorem exists_reportsName {kind : EntityKind} {entity : String × String × Json}
    (he : entity ∈ UsageGraph.entitiesOf (containerOf data) kind) {name : String}
    (hn : name ∈ Placeholder.collect config.maxParameterDepth entity.2.2)
    (hu : (containerOf data).IsUnresolved name) :
    ∃ record ∈ (ofData config prevented data).index.records,
      record.ReportsName kind entity.1 name := by
  have hi := UsageGraph.mem_unresolvedIssues_iff.mpr ⟨kind, entity, he, name, hn, hu, rfl⟩
  have hfound : _ ∈ (ofData config prevented data).issuesOf .unresolvedReferences :=
    mem_issuesFrom_iff.mpr ⟨_, unresolved_of_complete complete, hi⟩
  have hissue := mem_issues_of_mem_issuesOf .unresolvedReferences (by decide) hfound
  exact ⟨_, mem_records_iff.mpr ⟨_, hissue, rfl⟩, rfl, rfl, rfl, rfl⟩

/-- A complete audit reports every reference to nothing exactly if the missing members of trigger
groups are all listed by tags. -/
theorem reportsDangling_iff : (ofData config prevented data).ReportsDangling ↔
    ∀ trigger ∈ (containerOf data).triggers, ∀ id ∈ trigger.memberIds,
      (containerOf data).IsDangling id → ∃ tag ∈ (containerOf data).tags,
        id ∈ tag.firingTriggerIds ∨ id ∈ tag.blockingTriggerIds := by
  constructor
  · intro h trigger ht id hid hd
    have hreferenced : id ∈ (graph config (containerOf data)).referencedTriggerIds :=
      UsageGraph.mem_referencedTriggerIds_ofContainer.mpr
        (Or.inr ⟨trigger, ht, UsageGraph.family_eq_of_mem_memberIds hid, hid⟩)
    have hreported := h.triggers
    rw [config_ofData, container_ofData] at hreported
    obtain ⟨record, hr, hrecord⟩ := hreported id hreferenced hd
    exact (exists_of_reportsTrigger hr hrecord).1
  · intro h
    refine ⟨?_, ?_, ?_⟩ <;> rw [config_ofData, container_ofData]
    · intro id hid hd
      obtain ⟨tag, ht, hlisted⟩ | ⟨trigger, ht, -, hmember⟩ :=
        UsageGraph.mem_referencedTriggerIds_ofContainer.mp hid
      · exact exists_reportsTrigger complete ht hlisted hd
      · obtain ⟨tag, htag, hlisted⟩ := h trigger ht id hmember hd
        exact exists_reportsTrigger complete htag hlisted hd
    · exact fun kind entity he name hn hu => exists_reportsName complete he hn hu
    · exact fun record hr hc => exists_of_unresolved hr hc

end Complete

/-- A container with a trigger group that has a member without a trigger. -/
def missingMember (tags : List Json) : Json := .object [("tag", .array tags),
  ("trigger", .array [.object [("triggerId", .string "1"), ("type", .string "TRIGGER_GROUP"),
    ("parameter", .array [.object [("key", .string "triggerIds"),
      ("list", .array [.object [("value", .string "9")]])]])]])]

/-- A tag that lists the missing member. -/
def listingTag : Json := .object [("tagId", .string "1"), ("firingTriggerId", .string "9")]

/-- Where a tag lists the missing member, it is reported. -/
theorem reportsDangling_listedMember :
    (ofData Config.default (fun _ => false) (missingMember [listingTag])).failures = [] ∧
      (ofData Config.default (fun _ => false) (missingMember [listingTag])).ReportsDangling := by
  have hcomplete :
      (ofData Config.default (fun _ => false) (missingMember [listingTag])).failures = [] := by
    decide +kernel
  refine ⟨hcomplete, (reportsDangling_iff hcomplete).mpr ?_⟩
  decide +kernel

/-- Where no tag lists the missing member, no helper fails, yet no record reports it. -/
theorem not_reportsDangling_missingMember :
    (ofData Config.default (fun _ => false) (missingMember [])).failures = [] ∧
      (∀ record ∈ (ofData Config.default (fun _ => false) (missingMember [])).index.records,
        ¬ record.ReportsTrigger "9") ∧
      ¬ (ofData Config.default (fun _ => false) (missingMember [])).ReportsDangling := by
  have hunreported :
      ∀ record ∈ (ofData Config.default (fun _ => false) (missingMember [])).index.records,
        ¬ record.ReportsTrigger "9" := by
    intro record hr h
    have hlisted : ¬ ∃ tag ∈ (containerOf (missingMember [])).tags,
        "9" ∈ tag.firingTriggerIds ∨ "9" ∈ tag.blockingTriggerIds := by
      decide +kernel
    exact hlisted (exists_of_reportsTrigger hr h).1
  refine ⟨by decide +kernel, hunreported, fun h => ?_⟩
  have hreported := h.triggers
  rw [config_ofData, container_ofData] at hreported
  have hreferenced :
      "9" ∈ (graph Config.default (containerOf (missingMember []))).referencedTriggerIds := by
    decide +kernel
  have hdangling : (containerOf (missingMember [])).IsDangling "9" := by decide +kernel
  obtain ⟨record, hr, hrecord⟩ := hreported "9" hreferenced hdangling
  exact hunreported record hr hrecord

end Audit

end TagAudit
