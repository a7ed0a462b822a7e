import TagAudit.Proofs.Audit.Issues
import TagAudit.Proofs.Usage.Queries

/-!
# Addresses of issues

Every issue of an audit is about an entity of the audited container: an entity of its kind has its
identifier and its name. The rules look at entities one by one, so their issues are about these;
placeholders are traced back to entities through the usage graph. The facts of an issue are those
that its category has.
-/

namespace TagAudit

/-- The names of the facts that issues of a category have. -/
def Category.factNames : Category → List String
  | naming => ["violations"]
  | danglingTrigger => ["trigger_ids"]
  | doublePageview => ["shared_triggers"]
  | consentMissing => ["missing", "state"]
  | triggerAllPages => ["used_by_tag_ids"]
  | triggerDuplicate | variableDuplicate => ["duplicate_of"]
  | triggerBlocking => ["tag_ids"]
  | variableFault .malformedRegex => ["pattern"]
  | variableFault .fragileSelector => ["selector"]
  | variableFault .unsafeCode => ["patterns"]
  | htmlSecurity _ => ["finding_types"]
  | unresolvedReference => ["reference"]
  | paused | uaObsolete | noTrigger | triggerTiming | triggerUnused | variableUnused
  | variableFault .missingFallback | variableFault .lookupWithoutDefault => []

/-- An issue as the rules make them for a container. -/
structure Issue.Regular (issue : Issue) (container : Container) : Prop where
  /-- An entity of the kind has the identifier and the name. -/
  entity : (issue.entityId, issue.entityName) ∈ container.entities issue.kind
  facts : issue.facts.map (·.1) = issue.category.factNames

variable {config : Config} {container : Container}

namespace TagRules

/-- A naming issue is about the entity that it is made for. -/
theorem naming_of_mem {kind : EntityKind} {entity : String × String} {issue : Issue}
    (h : namingIssue? config kind entity = some issue) :
    issue.kind = kind ∧ (issue.entityId, issue.entityName) = entity ∧
      issue.facts.map (·.1) = issue.category.factNames := by
  obtain ⟨id, name⟩ := entity
  rw [namingIssue?_eq] at h
  split at h
  · cases h
  · cases h
    exact ⟨rfl, rfl, rfl⟩

/-- The issues of a tag are about it. -/
theorem tag_of_mem_issuesOfTag {double : DoublePageView} {tag : Tag} {issue : Issue}
    (hi : issue ∈ issuesOfTag config container double tag) :
    issue.kind = .tag ∧ (issue.entityId, issue.entityName) = (tag.id, tag.name) ∧
      issue.facts.map (·.1) = issue.category.factNames := by
  simp only [issuesOfTag, issueIf, List.mem_append, Option.mem_toList, List.mem_ite_nil_right,
    List.mem_singleton] at hi
  rcases hi with ((((⟨-, rfl⟩ | ⟨-, rfl⟩) | h) | ⟨-, rfl⟩) | ⟨-, rfl⟩) | ⟨-, rfl⟩
  case inl.inl.inl.inr => exact naming_of_mem h
  all_goals exact ⟨rfl, rfl, rfl⟩

theorem regular_of_mem_issues {issue : Issue} (hi : issue ∈ (ofContainer config container).issues) :
    issue.Regular container := by
  have hnaming : ∀ {kind},
      issue ∈ (container.entities kind).filterMap (namingIssue? config kind) →
      issue.Regular container := by
    intro kind h
    obtain ⟨entity, he, hn⟩ := List.mem_filterMap.mp h
    obtain ⟨hk, hentity, hfacts⟩ := naming_of_mem hn
    exact ⟨by rwa [hk, hentity], hfacts⟩
  rcases List.mem_append.mp hi with h | h
  · obtain ⟨tag, ht, h⟩ := List.mem_flatMap.mp h
    obtain ⟨hk, hentity, hfacts⟩ := tag_of_mem_issuesOfTag h
    refine ⟨?_, hfacts⟩
    rw [hk, hentity]
    exact List.mem_map_of_mem ht
  · exact (List.mem_append.mp h).elim hnaming hnaming

end TagRules

theorem ConsentCoverage.regular_of_mem_issues {coverage : ConsentCoverage}
    (h : ofContainer container = .ok coverage) {issue : Issue} (hi : issue ∈ coverage.issues) :
    issue.Regular container := by
  obtain ⟨verdict, hv, he⟩ := List.mem_filterMap.mp hi
  obtain ⟨tag, ht, declaration, rfl⟩ := exists_of_mem_verdicts h hv
  obtain ⟨severity, -, rfl⟩ := Option.map_eq_some_iff.mp he
  have htag : (ConsentVerdict.ofDeclaration tag declaration).tag = tag := by
    unfold ConsentVerdict.ofDeclaration
    extract_lets required inferred present missing verdict
    split_ifs <;> rfl
  refine ⟨?_, rfl⟩
  simp only [htag]
  exact List.mem_map_of_mem ht

theorem TriggerQuality.regular_of_mem_issues {referenced : List String} {quality : TriggerQuality}
    (h : ofContainer container referenced = .ok quality) {issue : Issue}
    (hi : issue ∈ quality.issues) : issue.Regular container := by
  obtain ⟨blockings, judged, hj, rfl⟩ := exists_of_ofContainer_eq_ok h
  obtain ⟨first, hf, hi⟩ := List.mem_flatMap.mp hi
  obtain ⟨trigger, ht, he⟩ := Failure.exists_of_mem_mapM hj hf
  cases Trigger.fst_eq_of_judge he
  have hmem : (first.1.id, first.1.name) ∈ container.entities .trigger := List.mem_map_of_mem ht
  simp only [issuesOfTrigger, List.mem_append, Option.mem_toList, Option.map_eq_some_iff,
    List.mem_ite_nil_right, List.mem_ite_nil_left, List.mem_singleton] at hi
  rcases hi with (((⟨-, rfl⟩ | ⟨-, rfl⟩) | ⟨-, rfl⟩) | ⟨_, -, rfl⟩) | ⟨-, rfl⟩ <;>
    exact ⟨hmem, rfl⟩

/-- A finding has the facts of its fault. -/
private theorem Variable.factNames_of_finding? {self : Variable} {finding : VariableFinding}
    (h : self.finding? = .ok (some finding)) :
    finding.facts.map (·.1) = (Category.variableFault finding.fault).factNames := by
  have hregex : ∀ patterns, firstMalformed? patterns = .ok (some finding) →
      finding.facts.map (·.1) = (Category.variableFault finding.fault).factNames := by
    intro patterns hp
    induction patterns with
    | nil => cases hp
    | cons pattern rest ih =>
      obtain ⟨fault?, -, hp⟩ := Failure.bind_eq_ok_iff.mp hp
      cases fault? with
      | none => exact ih hp
      | some fault =>
        cases hp
        rfl
  unfold finding? at h
  cases hk : self.kind <;> simp only [hk] at h
  case regexTable => exact hregex _ h
  all_goals have hfinding := Except.ok.inj h
  case customScript =>
    obtain ⟨script, -, hscript⟩ := Option.bind_eq_some_iff.mp hfinding
    simp only [scriptFinding?] at hscript
    split at hscript <;> cases hscript
    rfl
  case selector =>
    unfold selectorFinding? at hfinding
    split at hfinding <;> cases hfinding
    rfl
  case dataLayer | lookup =>
    split at hfinding <;> cases hfinding
    rfl
  case constant | other => cases hfinding

theorem VariableQuality.regular_of_mem_issues {referencedNames : List String}
    {quality : VariableQuality} (h : ofContainer config container referencedNames = .ok quality)
    {issue : Issue} (hi : issue ∈ quality.issues) : issue.Regular container := by
  rw [ofContainer_eq] at h
  obtain ⟨judged, hj, rfl⟩ := Failure.map_eq_ok_iff.mp h
  obtain ⟨first, hf, hi⟩ := List.mem_flatMap.mp hi
  obtain ⟨self, hs, he⟩ := Failure.exists_of_mem_mapM hj hf
  obtain ⟨finding, hfinding, rfl⟩ := Failure.map_eq_ok_iff.mp he
  have hmem : (self.id, self.name) ∈ container.entities .variable := List.mem_map_of_mem hs
  simp only [issuesOfVariable, List.mem_append, Option.mem_toList, Option.map_eq_some_iff,
    List.mem_ite_nil_left, List.mem_singleton] at hi
  rcases hi with (⟨found, rfl, rfl⟩ | ⟨-, rfl⟩) | ⟨_, -, rfl⟩
  · exact ⟨hmem, Variable.factNames_of_finding? hfinding⟩
  · exact ⟨hmem, rfl⟩
  · exact ⟨hmem, rfl⟩

theorem ScriptSecurity.regular_of_mem_issues {security : ScriptSecurity}
    (h : ofContainer config container = .ok security) {issue : Issue}
    (hi : issue ∈ security.issues) : issue.Regular container := by
  obtain ⟨reviews, hm, rfl⟩ := Failure.map_eq_ok_iff.mp h
  obtain ⟨review, hr, rfl⟩ := List.mem_map.mp hi
  obtain ⟨found, hf, hid⟩ := List.mem_filterMap.mp hr
  obtain ⟨tag, ht, he⟩ := Failure.exists_of_mem_mapM hm hf
  obtain ⟨findings, -, hreview⟩ := Failure.map_eq_ok_iff.mp he
  cases hid
  obtain ⟨severity, -, rfl⟩ := Option.map_eq_some_iff.mp hreview
  exact ⟨List.mem_map_of_mem (List.mem_of_mem_filter ht), rfl⟩

namespace UsageGraph

/-- The entities that are searched are those of the container. -/
theorem mem_entities_of_mem_entitiesOf {kind : EntityKind} {entity : String × String × Json}
    (h : entity ∈ entitiesOf container kind) :
    (entity.1, entity.2.1) ∈ container.entities kind := by
  cases kind <;> obtain ⟨source, hs, rfl⟩ := List.mem_map.mp h <;> exact List.mem_map_of_mem hs

/-- An identifier of an entity is found with a name that an entity has. -/
theorem mem_entities_entityName {kind : EntityKind} {id name : String}
    (h : (id, name) ∈ container.entities kind) :
    (id, entityName container kind id) ∈ container.entities kind := by
  have hsome : ((container.entities kind).reverse.lookup id).isSome = true :=
    List.lookup_isSome_iff.mpr ⟨(id, name), List.mem_reverse.mpr h, beq_self_eq_true _⟩
  obtain ⟨found, hf⟩ := Option.isSome_iff_exists.mp hsome
  obtain ⟨before, after, hl, -⟩ := List.lookup_eq_some_iff.mp hf
  rw [entityName, hf, ← List.mem_reverse, hl]
  exact List.mem_append_right _ (List.mem_cons_self ..)

theorem regular_of_mem_unresolvedIssues {depth : Nat} {issue : Issue}
    (hi : issue ∈ unresolvedIssues container (ofContainer container depth)) :
    issue.Regular container := by
  obtain ⟨reference, -, hi⟩ := List.mem_flatMap.mp hi
  obtain ⟨⟨kind, id⟩, hr, rfl⟩ := List.mem_map.mp hi
  obtain ⟨entity, he, rfl, -⟩ := mem_referrers_ofContainer.mp hr
  exact ⟨mem_entities_entityName (mem_entities_of_mem_entitiesOf he), rfl⟩

end UsageGraph

namespace Audit

variable {prevented : Helper → Bool} {data : Json}

/-- Every issue of an audit is as the rules make them. -/
theorem regular_of_mem_issues {issue : Issue} (hi : issue ∈ (ofData config prevented data).issues) :
    issue.Regular (containerOf data) := by
  rw [issues_eq_flatMap] at hi
  obtain ⟨helper, -, hi⟩ := List.mem_flatMap.mp hi
  cases helper with
  | usageGraph | migrationSuggestions => cases hi
  | tagRules =>
    obtain ⟨rules, hr, hi⟩ := mem_issuesFrom_iff.mp hi
    exact TagRules.regular_of_mem_issues ((eq_of_tagRules hr).symm ▸ hi)
  | consentMode =>
    obtain ⟨coverage, hr, hi⟩ := mem_issuesFrom_iff.mp hi
    exact ConsentCoverage.regular_of_mem_issues (eq_of_consent hr) hi
  | triggerQuality =>
    obtain ⟨report, hr, hi⟩ := mem_issuesFrom_iff.mp hi
    exact TriggerQuality.regular_of_mem_issues (eq_of_triggerQuality hr) hi
  | variableQuality =>
    obtain ⟨report, hr, hi⟩ := mem_issuesFrom_iff.mp hi
    exact VariableQuality.regular_of_mem_issues (eq_of_variableQuality hr) hi
  | htmlSecurity =>
    obtain ⟨security, hr, hi⟩ := mem_issuesFrom_iff.mp hi
    exact ScriptSecurity.regular_of_mem_issues (eq_of_security hr) hi
  | unresolvedReferences =>
    obtain ⟨unresolved, hr, hi⟩ := mem_issuesFrom_iff.mp hi
    exact UsageGraph.regular_of_mem_unresolvedIssues (mem_unresolvedIssues_of_unresolved hr hi)

/-- The names of the categories of problems. -/
def vocabulary : List String :=
  ["paused", "ua_obsolete", "naming", "no_trigger", "dangling_trigger", "double_pageview",
    "consent_missing", "trigger_all_pages", "trigger_timing", "trigger_unused",
    "trigger_duplicate", "trigger_blocking", "dlv_missing_fallback", "lookup_without_default",
    "regex_malformed", "css_fragile_selectors", "js_unsafe_code", "variable_unused",
    "variable_duplicate", "html_security_critical", "html_security_major",
    "html_security_minor", "unresolved_reference"]

/-- Every category has its name in the vocabulary. -/
theorem name_mem_vocabulary (category : Category) : category.name ∈ vocabulary := by
  have hnames : ∀ other ∈ Category.all, other.name ∈ vocabulary := by decide
  exact hnames category (Category.mem_all category)

/-- The address of a record: an entity of the type that it names has the identifier. -/
inductive HasAddress (container : Container) (record : IssueRecord) : Prop
  | tag (type : record.entityType = "tag") (tag : Tag) (mem : tag ∈ container.tags)
      (id : tag.id = record.entityId)
  | trigger (type : record.entityType = "trigger") (trigger : Trigger)
      (mem : trigger ∈ container.triggers) (id : trigger.id = record.entityId)
  | «variable» (type : record.entityType = "variable") (self : Variable)
      (mem : self ∈ container.userVariables) (id : self.id = record.entityId)

/-- A record of a problem of a container. -/
structure WellFormed (container : Container) (record : IssueRecord) : Prop where
  address : HasAddress container record
  severity : record.severity ∈ ["minor", "major", "critical"]
  /-- The record is of one category. -/
  category : ∃ name ∈ vocabulary, record.categories = [name]

/-- The record of an issue about an entity of a container is well-formed. -/
theorem WellFormed.of_entity {issue : Issue} {container : Container}
    (h : (issue.entityId, issue.entityName) ∈ container.entities issue.kind) :
    WellFormed container issue.toRecord where
  address := by
    obtain ⟨kind, id, name, category, severity, reason, suggestion, facts⟩ := issue
    cases kind <;> obtain ⟨source, hs, he⟩ := List.mem_map.mp h <;>
      have hid := congrArg Prod.fst he
    · exact .tag rfl source hs hid
    · exact .trigger rfl source hs hid
    · exact .variable rfl source hs hid
  severity := by
    have hname : ∀ severity : Severity, severity.name ∈ ["minor", "major", "critical"] := by
      intro severity
      cases severity <;> decide
    exact hname issue.severity
  category := ⟨issue.category.name, name_mem_vocabulary issue.category, rfl⟩

/-- Every record in the index of an audit is well-formed, whatever the data and the settings are and
whichever helpers fail. -/
theorem wellFormed_of_mem_records {record : IssueRecord}
    (h : record ∈ (ofData config prevented data).index.records) :
    WellFormed (containerOf data) record := by
  have hrecord := (records_index_perm _).mem_iff.mp h
  obtain ⟨issue, hi, rfl⟩ := List.mem_map.mp hrecord
  exact .of_entity (regular_of_mem_issues hi).entity

/-- The record of the paused tag of the example. -/
theorem wellFormed_pausedTagRecord :
    let record : IssueRecord := ⟨"1", "tag", "", ["paused"], "minor", "Tag is paused",
      some "Remove the tag if it is no longer needed", []⟩
    record ∈ (ofData Config.default (fun _ => false) pausedTagExport).index.records ∧
      WellFormed (containerOf pausedTagExport) record := by
  intro record
  have hmem : record ∈
      (ofData Config.default (fun _ => false) pausedTagExport).index.records := by
    decide +kernel
  exact ⟨hmem, wellFormed_of_mem_records hmem⟩

end Audit

end TagAudit
