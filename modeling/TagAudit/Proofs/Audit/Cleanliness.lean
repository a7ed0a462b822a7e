import TagAudit.Proofs.Audit.Addressing
import TagAudit.Proofs.IssueIndex.Lookup

/-!
# Clean triggers and variables

The dimensions of clean triggers and clean variables are computed from the issues of two analyses,
and the index is made of the issues of all of them under bare identifiers, which entities of
different kinds may share. Both tell the same entities from the clean ones: each analysis finds
issues of one kind of entity only, and what else is found of triggers and variables are unresolved
references.
-/

namespace TagAudit

namespace IssueIndex

/-- Does the index blame an entity for anything but unresolved references? -/
def blames (index : IssueIndex) (kind : EntityKind) (id : String) : Bool :=
  (index.recordsOf id (some kind.name)).any fun record =>
    record.categories.any (· != Category.unresolvedReference.name)

/-- The number of entities of a kind that the index does not blame, given their identifiers. -/
def blameless (index : IssueIndex) (kind : EntityKind) (ids : List String) : Nat :=
  ids.countP fun id => !index.blames kind id

/-- Only records of its own kind blame an entity. -/
theorem blameless_congr {records others : List IssueRecord} {kind : EntityKind}
    (h : others.filter (·.entityType == kind.name) =
      records.filter (·.entityType == kind.name)) (ids : List String) :
    (ofRecords others).blameless kind ids = (ofRecords records).blameless kind ids := by
  have hown : ∀ (list : List IssueRecord) (id : String),
      (ofRecords list).recordsOf id (some kind.name) =
        (list.filter (·.entityType == kind.name)).filter (·.entityId == id) := by
    intro list id
    rw [recordsOf_ofRecords, List.filter_filter]
    rfl
  unfold blameless blames
  simp only [hown, h]

end IssueIndex

/-- The kind of entity that all issues of a helper are about, where there is one. -/
def Helper.subject? : Helper → Option EntityKind
  | consentMode | htmlSecurity => some .tag
  | triggerQuality => some .trigger
  | variableQuality => some .variable
  | usageGraph | tagRules | unresolvedReferences | migrationSuggestions => none

namespace TagRules

/-- The issues of the entities of a kind. -/
def issuesOfKind (rules : TagRules) : EntityKind → List Issue
  | .tag => rules.tagIssues
  | .trigger => rules.triggerNaming
  | .variable => rules.variableNaming

/-- The issues about entities of a kind are those that are listed for it. -/
theorem mem_issuesOfKind_iff {config : Config} {container : Container} {kind : EntityKind}
    {issue : Issue} : issue ∈ (ofContainer config container).issuesOfKind kind ↔
      issue ∈ (ofContainer config container).issues ∧ issue.kind = kind := by
  have hnaming : ∀ other, issue ∈ (container.entities other).filterMap (namingIssue? config other) →
      issue.kind = other := by
    intro other hi
    obtain ⟨entity, -, hn⟩ := List.mem_filterMap.mp hi
    exact (naming_of_mem hn).1
  have htag : issue ∈ (ofContainer config container).tagIssues → issue.kind = .tag := by
    intro hi
    obtain ⟨tag, -, ht⟩ := List.mem_flatMap.mp hi
    exact (tag_of_mem_issuesOfTag ht).1
  have htrigger : issue ∈ (ofContainer config container).triggerNaming → issue.kind = .trigger :=
    hnaming .trigger
  have hvariable :
      issue ∈ (ofContainer config container).variableNaming → issue.kind = .variable :=
    hnaming .variable
  simp only [issues, List.mem_append]
  constructor
  · intro hi
    cases kind with
    | tag => exact ⟨.inl hi, htag hi⟩
    | trigger => exact ⟨.inr (.inl hi), htrigger hi⟩
    | «variable» => exact ⟨.inr (.inr hi), hvariable hi⟩
  · rintro ⟨hi | hi | hi, rfl⟩
    · rw [htag hi]
      exact hi
    · rw [htrigger hi]
      exact hi
    · rw [hvariable hi]
      exact hi

end TagRules

namespace Audit

variable {config : Config} {prevented : Helper → Bool} {data : Json}

/-- The issues of a helper are about its subject. -/
theorem kind_of_mem_issuesOf {helper : Helper} {kind : EntityKind}
    (hs : helper.subject? = some kind) {issue : Issue}
    (hi : issue ∈ (ofData config prevented data).issuesOf helper) : issue.kind = kind := by
  cases helper with
  | consentMode =>
    cases hs
    obtain ⟨coverage, -, hi⟩ := mem_issuesFrom_iff.mp hi
    obtain ⟨verdict, -, hv⟩ := List.mem_filterMap.mp hi
    obtain ⟨severity, -, rfl⟩ := Option.map_eq_some_iff.mp hv
    rfl
  | htmlSecurity =>
    cases hs
    obtain ⟨security, -, hi⟩ := mem_issuesFrom_iff.mp hi
    obtain ⟨review, -, rfl⟩ := List.mem_map.mp hi
    rfl
  | triggerQuality =>
    cases hs
    obtain ⟨report, hr, hi⟩ := mem_issuesFrom_iff.mp hi
    obtain ⟨blockings, judged, -, he⟩ :=
      TriggerQuality.exists_of_ofContainer_eq_ok (eq_of_triggerQuality hr)
    rw [← he] at hi
    obtain ⟨first, -, hi⟩ := List.mem_flatMap.mp hi
    simp only [TriggerQuality.issuesOfTrigger, List.mem_append, Option.mem_toList,
      Option.map_eq_some_iff, List.mem_ite_nil_right, List.mem_ite_nil_left,
      List.mem_singleton] at hi
    rcases hi with (((⟨-, rfl⟩ | ⟨-, rfl⟩) | ⟨-, rfl⟩) | ⟨_, -, rfl⟩) | ⟨-, rfl⟩ <;> rfl
  | variableQuality =>
    cases hs
    obtain ⟨report, hr, hi⟩ := mem_issuesFrom_iff.mp hi
    have hq := eq_of_variableQuality hr
    rw [VariableQuality.ofContainer_eq] at hq
    obtain ⟨judged, -, he⟩ := Failure.map_eq_ok_iff.mp hq
    rw [← he] at hi
    obtain ⟨first, -, hi⟩ := List.mem_flatMap.mp hi
    simp only [VariableQuality.issuesOfVariable, List.mem_append, Option.mem_toList,
      Option.map_eq_some_iff, List.mem_ite_nil_left, List.mem_singleton] at hi
    rcases hi with (⟨_, -, rfl⟩ | ⟨-, rfl⟩) | ⟨_, -, rfl⟩ <;> rfl
  | _ => cases hs

/-- The issues about entities of a kind that one analysis looks at: what it found itself, and the
names that break the rules. -/
def flagging (audit : Audit) (analyzer : Helper) (kind : EntityKind) : List Issue :=
  audit.issuesOf analyzer ++ issuesFrom audit.tagRules (·.issuesOfKind kind)

/-- These are all issues about the kind but the unresolved references, if no other analysis is about
it. -/
theorem mem_flagging_iff {analyzer : Helper} {kind : EntityKind}
    (hs : ∀ helper, helper.subject? = some kind ↔ helper = analyzer) {issue : Issue} :
    issue ∈ (ofData config prevented data).flagging analyzer kind ↔
      issue ∈ (ofData config prevented data).issues ∧ issue.kind = kind ∧
        issue.category ≠ .unresolvedReference := by
  have hanalyzer : analyzer.subject? = some kind := (hs analyzer).mpr rfl
  have hfinds : analyzer ∈ finders ∧ analyzer ≠ .unresolvedReferences := by
    have hall : ∀ helper : Helper, helper.subject?.isSome = true →
        helper ∈ finders ∧ helper ≠ .unresolvedReferences := by
      intro helper
      cases helper <;> decide
    exact hall analyzer (by rw [hanalyzer]; rfl)
  rw [flagging, List.mem_append, issues_eq_flatMap, List.mem_flatMap]
  constructor
  · rintro (hi | hi)
    · refine ⟨⟨analyzer, hfinds.1, hi⟩, kind_of_mem_issuesOf hanalyzer hi, fun hc => ?_⟩
      have hfinder := finder_of_mem_issuesOf hi
      rw [hc] at hfinder
      exact hfinds.2 hfinder.symm
    · obtain ⟨rules, hr, hi⟩ := mem_issuesFrom_iff.mp hi
      rw [← eq_of_tagRules hr, TagRules.mem_issuesOfKind_iff] at hi
      obtain ⟨hi, hk⟩ := hi
      have hfinder := TagRules.finder_of_mem_issues _ _ hi
      have hrules : issue ∈ (ofData config prevented data).issuesOf .tagRules :=
        mem_issuesFrom_iff.mpr ⟨rules, hr, eq_of_tagRules hr ▸ hi⟩
      refine ⟨⟨.tagRules, by decide, hrules⟩, hk, fun hc => ?_⟩
      rw [hc] at hfinder
      cases hfinder
  · rintro ⟨⟨helper, -, hi⟩, hk, hc⟩
    -- a helper with a subject is the analysis; of the others only the rules for tags are left
    cases hsubject : helper.subject? with
    | some other =>
      have hother : other = kind := (kind_of_mem_issuesOf hsubject hi).symm.trans hk
      subst hother
      rw [(hs helper).mp hsubject] at hi
      exact .inl hi
    | none =>
      cases helper with
      | tagRules =>
        obtain ⟨rules, hr, hi⟩ := mem_issuesFrom_iff.mp hi
        refine .inr (mem_issuesFrom_iff.mpr ⟨rules, hr, ?_⟩)
        rw [← eq_of_tagRules hr, TagRules.mem_issuesOfKind_iff, eq_of_tagRules hr]
        exact ⟨hi, hk⟩
      | unresolvedReferences =>
        obtain ⟨unresolved, hr, hi⟩ := mem_issuesFrom_iff.mp hi
        exact (hc (category_of_mem_unresolved hr hi)).elim
      | usageGraph | migrationSuggestions => cases hi
      | _ => cases hsubject

/-- The index blames an entity exactly if one of these issues has its identifier. -/
theorem blames_index {analyzer : Helper} {kind : EntityKind}
    (hs : ∀ helper, helper.subject? = some kind ↔ helper = analyzer) (id : String) :
    (ofData config prevented data).index.blames kind id =
      ((ofData config prevented data).flagging analyzer kind).any (·.entityId == id) := by
  have hname : ∀ a b : EntityKind, a.name = b.name ↔ a = b := by
    intro a b
    cases a <;> cases b <;> decide
  have hcategory : ∀ issue : Issue,
      issue.category.name ≠ Category.unresolvedReference.name ↔
        issue.category ≠ .unresolvedReference := fun issue =>
    not_congr ⟨fun h => Category.name_injective h, fun h => h ▸ rfl⟩
  rw [Bool.eq_iff_iff, IssueIndex.blames, index, IssueIndex.recordsOf_ofRecords]
  simp only [List.any_eq_true, List.mem_filter, List.mem_map, mem_flagging_iff hs]
  constructor
  · rintro ⟨record, ⟨⟨issue, hi, rfl⟩, hown⟩, hblamed⟩
    simp only [Issue.toRecord, Option.all_some, Bool.and_eq_true, beq_iff_eq, hname] at hown
    simp only [Issue.toRecord, List.mem_singleton, exists_eq_left, bne_iff_ne, hcategory]
      at hblamed
    exact ⟨issue, ⟨hi, hown.2, hblamed⟩, by simpa using hown.1⟩
  · rintro ⟨issue, ⟨hi, hk, hc⟩, hid⟩
    refine ⟨issue.toRecord, ⟨⟨issue, hi, rfl⟩, ?_⟩, ?_⟩
    · simpa [Issue.toRecord, hk] using hid
    · simpa [Issue.toRecord] using (hcategory issue).mpr hc

/-- A dimension of clean entities that the index confirms. -/
structure ConfirmsCleanliness (audit : Audit) (dimension : Dimension) (kind : EntityKind)
    (ids : List String) : Prop where
  /-- The clean entities are those that the index does not blame. -/
  value : audit.score.values dimension =
    some (Score.cleanliness ids.length (audit.index.blameless kind ids))
  /-- Records of other kinds of entities may be added, left out or moved, whatever identifiers they
  have: the number stays. -/
  unaffected : ∀ others : List IssueRecord,
    others.filter (·.entityType == kind.name) =
        (audit.issues.map Issue.toRecord).filter (·.entityType == kind.name) →
      audit.score.values dimension =
        some (Score.cleanliness ids.length ((IssueIndex.ofRecords others).blameless kind ids))

/-- A number of entities that no issue about their kind flags is confirmed by the index. -/
theorem confirmsCleanliness_of_flagging {analyzer : Helper} {kind : EntityKind}
    (hs : ∀ helper, helper.subject? = some kind ↔ helper = analyzer) {dimension : Dimension}
    {ids : List String}
    (hvalue : (ofData config prevented data).score.values dimension =
      some (Score.cleanliness ids.length (ids.countP fun id =>
        !((ofData config prevented data).flagging analyzer kind).any (·.entityId == id)))) :
    (ofData config prevented data).ConfirmsCleanliness dimension kind ids := by
  have hindex : (ofData config prevented data).score.values dimension =
      some (Score.cleanliness ids.length
        ((ofData config prevented data).index.blameless kind ids)) := by
    simp only [hvalue, IssueIndex.blameless, blames_index hs]
  refine ⟨hindex, fun others hothers => ?_⟩
  rw [hindex, index, IssueIndex.blameless_congr hothers]

/-- If no helper fails, the index confirms the dimensions of clean triggers and variables. -/
theorem confirmsCleanliness_ofData (config : Config) (prevented : Helper → Bool) (data : Json)
    (complete : (ofData config prevented data).failures = []) :
    (ofData config prevented data).ConfirmsCleanliness .triggerCleanliness .trigger
        ((containerOf data).triggers.map (·.id)) ∧
      (ofData config prevented data).ConfirmsCleanliness .variableCleanliness .variable
        ((containerOf data).userVariables.map (·.id)) := by
  have hok := hasFailed_eq_false complete
  constructor
  · have hs : ∀ helper : Helper, helper.subject? = some .trigger ↔ helper = .triggerQuality := by
      intro helper
      cases helper <;> simp [Helper.subject?]
    obtain ⟨report, hr⟩ : ∃ report,
        (ofData config prevented data).triggerQuality.result = some report :=
      Option.isSome_iff_exists.mp (by simpa [hasFailed, Outcome.failed] using hok .triggerQuality)
    have hflagging : (ofData config prevented data).flagging .triggerQuality .trigger =
        report.1.issues ++
          issuesFrom (ofData config prevented data).tagRules TagRules.triggerNaming := by
      simp only [flagging, issuesOf, issuesFrom, hr, Option.toList_some, List.flatMap_singleton]
      rfl
    apply confirmsCleanliness_of_flagging hs
    simp only [score, value?, hr, Option.map_some, container_ofData, List.length_map,
      List.countP_map, Function.comp_def, hflagging]
  · have hs : ∀ helper : Helper, helper.subject? = some .variable ↔ helper = .variableQuality := by
      intro helper
      cases helper <;> simp [Helper.subject?]
    obtain ⟨report, hr⟩ : ∃ report,
        (ofData config prevented data).variableQuality.result = some report :=
      Option.isSome_iff_exists.mp (by simpa [hasFailed, Outcome.failed] using hok .variableQuality)
    have hflagging : (ofData config prevented data).flagging .variableQuality .variable =
        report.1.issues ++
          issuesFrom (ofData config prevented data).tagRules TagRules.variableNaming := by
      simp only [flagging, issuesOf, issuesFrom, hr, Option.toList_some, List.flatMap_singleton]
      rfl
    apply confirmsCleanliness_of_flagging hs
    simp only [score, value?, hr, Option.map_some, container_ofData, List.length_map,
      List.countP_map, Function.comp_def, hflagging]

/-- A paused tag, a clean trigger and a variable without a default, all of one identifier. -/
def sharedIdExport : Json := .object [
  ("tag", .array [.object [("tagId", .string "1"), ("type", .string "html"),
    ("paused", .bool true), ("firingTriggerId", .array [.string "1"])]]),
  ("trigger", .array [.object [("triggerId", .string "1"), ("name", .string "menu_click"),
    ("type", .string "CLICK")]]),
  ("variable", .array [.object [("variableId", .string "1"), ("name", .string "page_title"),
    ("type", .string "v")]])]

/-- The issues of the tag leave the trigger clean, and those of the variable leave it so too. -/
theorem confirmsCleanliness_sharedIdExport :
    let audit := ofData Config.default (fun _ => false) sharedIdExport
    audit.failures = [] ∧ audit.index.blames .tag "1" = true ∧
      audit.index.blameless .trigger ["1"] = 1 ∧ audit.index.blameless .variable ["1"] = 0 ∧
      audit.ConfirmsCleanliness .triggerCleanliness .trigger
        ((containerOf sharedIdExport).triggers.map (·.id)) ∧
      audit.ConfirmsCleanliness .variableCleanliness .variable
        ((containerOf sharedIdExport).userVariables.map (·.id)) := by
  intro audit
  have complete : audit.failures = [] := by decide +kernel
  have hblames : audit.index.blames .tag "1" = true ∧
      audit.index.blameless .trigger ["1"] = 1 ∧ audit.index.blameless .variable ["1"] = 0 := by
    decide +kernel
  exact ⟨complete, hblames.1, hblames.2.1, hblames.2.2, confirmsCleanliness_ofData _ _ _ complete⟩

end Audit

end TagAudit
