import TagAudit.Proofs.Audit.Issues

/-!
# Accounting for problems

An audit counts its problems three times: the analyses keep statistics, from which the plan of
actions is made; the index counts the categories of records; and the issues are counted as a whole.
The three always agree, whatever helpers failed; only the suggestions for migration, which a helper
of their own makes, are as many as the obsolete tags only if both helpers ran.
-/

namespace TagAudit

namespace Action

/-- The number of problems that a plan has for a kind of action, zero where there is none. -/
def countOf (plan : List Action) (kind : ActionKind) : Int :=
  ((plan.find? (·.kind == kind)).map (·.count)).getD 0

/-- A plan has one action for a kind with problems and none for any other. -/
theorem filter_plan (counts : ActionKind → Int) (kind : ActionKind) :
    (plan counts).filter (·.kind == kind) =
      if counts kind = 0 then [] else [⟨kind, counts kind⟩] := by
  have hall : ActionKind.all.filter (· == kind) = [kind] := by cases kind <;> decide
  rw [plan, List.filter_map, List.filter_filter]
  simp only [Function.comp_def, ← List.filter_filter]
  rw [List.filter_comm, hall]
  by_cases h : counts kind = 0 <;> simp [h]

/-- The number that a plan has for a kind is the one that it was made of. -/
theorem countOf_plan (counts : ActionKind → Int) (kind : ActionKind) :
    countOf (plan counts) kind = counts kind := by
  rw [countOf, ← List.head?_filter, filter_plan]
  by_cases h : counts kind = 0 <;> simp [h]

end Action

namespace Audit

open Issue

/-- The number of problems that the plan of an audit has for a kind of action. -/
def planned (audit : Audit) (kind : ActionKind) : Int := Action.countOf audit.plan kind

/-- What is planned for are the problems. -/
theorem planned_eq (audit : Audit) (kind : ActionKind) :
    audit.planned kind = audit.problems kind :=
  Action.countOf_plan _ kind

/-- The records, the counters, the number of issues and the plan of an audit tell the same. -/
structure Reconciled (audit : Audit) : Prop where
  /-- The index holds the records of the issues. -/
  records : audit.index.records.Perm (audit.issues.map Issue.toRecord)
  /-- Every record is of exactly one category. -/
  categories : ∀ record ∈ audit.index.records, ∃ category : Category,
    record.categories = [category.name]
  /-- The number of issues is the number of records. -/
  issues : audit.countsJson.get "issues" = .nat audit.index.records.length
  /-- The number of records is the sum of all counters. -/
  counters : audit.index.records.length = audit.index.counterSum
  paused : audit.planned .paused = audit.index.counter "paused"
  uaObsolete : audit.planned .uaObsolete = audit.index.counter "ua_obsolete"
  /-- Every obsolete tag has a suggestion for its migration. -/
  migration : (audit.migration.result.getD []).length = audit.index.counter "ua_obsolete"
  naming : audit.planned .naming = audit.index.counter "naming"
  consentMode : audit.planned .consentMode = audit.index.counter "consent_missing"
  htmlSecurity : audit.planned .htmlSecurity =
    audit.index.counter "html_security_critical" + audit.index.counter "html_security_major" +
      audit.index.counter "html_security_minor"
  triggerQuality : audit.planned .triggerQuality =
    audit.index.counter "trigger_all_pages" + audit.index.counter "trigger_timing" +
      audit.index.counter "trigger_duplicate" + audit.index.counter "trigger_blocking"
  variableQuality : audit.planned .variableQuality =
    audit.index.counter "dlv_missing_fallback" + audit.index.counter "lookup_without_default" +
      audit.index.counter "regex_malformed" + audit.index.counter "css_fragile_selectors" +
      audit.index.counter "js_unsafe_code"
  unused : audit.planned .unused =
    audit.index.counter "trigger_unused" + audit.index.counter "variable_unused"
  /-- A doubled page view is one problem however many tags send it. -/
  doublePageview : audit.plan.filter (·.kind == .doublePageview) =
    if 0 < audit.index.counter "double_pageview" then [⟨.doublePageview, 1⟩] else []

section OfData

variable (config : Config) (prevented : Helper → Bool) (data : Json)

theorem problems_paused : (ofData config prevented data).problems .paused =
    countOf .paused (ofData config prevented data).issues := by
  rw [countOf_issues]
  refine (count_issuesFrom (countOf .paused) rfl fun rules hr => ?_).symm
  rw [← eq_of_tagRules hr, TagRules.countOf_paused_issues]

theorem problems_uaObsolete : (ofData config prevented data).problems .uaObsolete =
    countOf .uaObsolete (ofData config prevented data).issues := by
  rw [countOf_issues]
  refine (count_issuesFrom (countOf .uaObsolete) rfl fun rules hr => ?_).symm
  rw [← eq_of_tagRules hr, TagRules.countOf_uaObsolete_issues]

theorem problems_naming : (ofData config prevented data).problems .naming =
    countOf .naming (ofData config prevented data).issues := by
  rw [countOf_issues]
  refine (count_issuesFrom (countOf .naming) rfl fun rules hr => ?_).symm
  rw [← eq_of_tagRules hr, TagRules.countOf_naming_issues]

theorem problems_doublePageview : (ofData config prevented data).problems .doublePageview =
    if 0 < countOf .doublePageview (ofData config prevented data).issues then 1 else 0 := by
  rw [countOf_issues]
  refine (count_issuesFrom (fun issues => if 0 < countOf .doublePageview issues then 1 else 0) rfl
    fun rules hr => ?_).symm
  simp only [← eq_of_tagRules hr, TagRules.countOf_doublePageview_issues_pos_iff]

theorem problems_consentMode : (ofData config prevented data).problems .consentMode =
    countOf .consentMissing (ofData config prevented data).issues := by
  rw [countOf_issues]
  refine (count_issuesFrom (countOf .consentMissing) rfl fun coverage hr => ?_).symm
  exact ConsentCoverage.countOf_consentMissing_issues (eq_of_consent hr)

theorem problems_htmlSecurity : (ofData config prevented data).problems .htmlSecurity =
    countOf (.htmlSecurity .critical) (ofData config prevented data).issues +
      countOf (.htmlSecurity .major) (ofData config prevented data).issues +
      countOf (.htmlSecurity .minor) (ofData config prevented data).issues := by
  simp only [countOf_issues]
  refine (count_issuesFrom (fun issues => countOf (.htmlSecurity .critical) issues +
    countOf (.htmlSecurity .major) issues + countOf (.htmlSecurity .minor) issues) rfl
    fun security _ => ?_).symm
  simp only [ScriptSecurity.countOf_htmlSecurity_issues, ScriptSecurity.flagged]

theorem problems_triggerQuality : (ofData config prevented data).problems .triggerQuality =
    countOf .triggerAllPages (ofData config prevented data).issues +
      countOf .triggerTiming (ofData config prevented data).issues +
      countOf .triggerDuplicate (ofData config prevented data).issues +
      countOf .triggerBlocking (ofData config prevented data).issues := by
  simp only [countOf_issues]
  refine (count_issuesFrom (fun issues => countOf .triggerAllPages issues +
    countOf .triggerTiming issues + countOf .triggerDuplicate issues +
    countOf .triggerBlocking issues) rfl fun report hr => ?_).symm
  exact (TriggerQuality.countP_ne_triggerUnused (eq_of_triggerQuality hr)).symm

theorem problems_variableQuality : (ofData config prevented data).problems .variableQuality =
    VariableFault.all.foldr (fun fault total =>
      countOf (.variableFault fault) (ofData config prevented data).issues + total) 0 := by
  simp only [countOf_issues]
  refine (count_issuesFrom (fun issues => VariableFault.all.foldr (fun fault total =>
    countOf (.variableFault fault) issues + total) 0) rfl fun report hr => ?_).symm
  exact VariableQuality.foldr_countOf_variableFault_issues (eq_of_variableQuality hr)

theorem problems_unused : (ofData config prevented data).problems .unused =
    countOf .triggerUnused (ofData config prevented data).issues +
      countOf .variableUnused (ofData config prevented data).issues := by
  simp only [countOf_issues, problems]
  congr 1
  · refine (count_issuesFrom (countOf .triggerUnused) rfl fun report hr => ?_).symm
    exact TriggerQuality.countOf_triggerUnused_issues (eq_of_triggerQuality hr)
  · refine (count_issuesFrom (countOf .variableUnused) rfl fun report hr => ?_).symm
    exact VariableQuality.countOf_variableUnused_issues (eq_of_variableQuality hr)

/-- Every obsolete tag has a suggestion for its migration, if both helpers ran. -/
theorem length_migration (ht : (ofData config prevented data).tagRules.failed = false)
    (hm : (ofData config prevented data).migration.failed = false) :
    ((ofData config prevented data).migration.result.getD []).length =
      countOf .uaObsolete (ofData config prevented data).issues := by
  rw [← problems_uaObsolete]
  simp only [Outcome.failed, problems, countFrom, tagRules_ofData, migration_ofData] at ht hm ⊢
  split at ht
  · simp at ht
  · split at hm
    · simp at hm
    · simp [*, TagRules.length_migrationSuggestions config]

/-- An audit none of whose helpers failed is reconciled: its records, its counters, its number of
issues and its plan agree. -/
theorem reconciled_ofData (complete : (ofData config prevented data).failures = []) :
    (ofData config prevented data).Reconciled := by
  have hok : ∀ helper, (ofData config prevented data).hasFailed helper = false := by
    intro helper
    have hall : helper ∈ Helper.all := by cases helper <;> decide
    simpa using (List.filter_eq_nil_iff.mp complete) helper hall
  have hlength : (ofData config prevented data).index.records.length =
      (ofData config prevented data).issues.length := by
    rw [(records_index_perm _).length_eq, List.length_map]
  have hcounter : ∀ category : Category,
      (ofData config prevented data).index.counter category.name =
        countOf category (ofData config prevented data).issues := counter_index _
  refine
    { records := records_index_perm _
      categories := ?_
      issues := by rw [hlength]; rfl
      counters := by rw [hlength, counterSum_index]
      paused := ?_
      uaObsolete := ?_
      migration := ?_
      naming := ?_
      consentMode := ?_
      htmlSecurity := ?_
      triggerQuality := ?_
      variableQuality := ?_
      unused := ?_
      doublePageview := ?_ }
  · intro record hr
    obtain ⟨issue, -, rfl⟩ := List.mem_map.mp ((records_index_perm _).mem_iff.mp hr)
    exact ⟨issue.category, rfl⟩
  · rw [planned_eq, problems_paused]
    exact congrArg _ (hcounter .paused).symm
  · rw [planned_eq, problems_uaObsolete]
    exact congrArg _ (hcounter .uaObsolete).symm
  · rw [length_migration config prevented data (hok .tagRules) (hok .migrationSuggestions)]
    exact (hcounter .uaObsolete).symm
  · rw [planned_eq, problems_naming]
    exact congrArg _ (hcounter .naming).symm
  · rw [planned_eq, problems_consentMode]
    exact congrArg _ (hcounter .consentMissing).symm
  · rw [planned_eq, problems_htmlSecurity, ← hcounter, ← hcounter, ← hcounter]
    simp only [Int.natCast_add, Category.name]
  · rw [planned_eq, problems_triggerQuality, ← hcounter, ← hcounter, ← hcounter, ← hcounter]
    simp only [Int.natCast_add, Category.name]
  · rw [planned_eq, problems_variableQuality]
    simp only [← hcounter, VariableFault.all, List.foldr_cons, List.foldr_nil, Int.natCast_add,
      Category.name, VariableFault.name]
    omega
  · rw [planned_eq, problems_unused, ← hcounter, ← hcounter]
    simp only [Int.natCast_add, Category.name]
  · rw [plan, Action.filter_plan, problems_doublePageview, ← hcounter]
    change _ = if 0 < (ofData config prevented data).index.counter
      (Category.doublePageview).name then _ else _
    split <;> simp

end OfData

/-- One paused tag is planned for, counted and recorded. -/
theorem reconciled_pausedTagExport :
    (ofData Config.default (fun _ => false) pausedTagExport).planned .paused = 1 ∧
      (ofData Config.default (fun _ => false) pausedTagExport).Reconciled := by
  have hplanned : (ofData Config.default (fun _ => false) pausedTagExport).planned .paused = 1 := by
    decide +kernel
  exact ⟨hplanned, reconciled_ofData _ _ _ complete_pausedTagExport⟩

end Audit

end TagAudit
