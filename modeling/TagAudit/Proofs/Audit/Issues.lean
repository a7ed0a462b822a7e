import TagAudit.Proofs.Audit.Outcomes
import TagAudit.Proofs.IssueIndex

/-!
# Issues of an audit

The issues of an audit are those of each helper in turn, and those of a category all come from the
one helper that finds it. So the counter of a category in the index is a count over the issues of
that helper.
-/

namespace TagAudit.Audit

open Issue

/-- The issues that a helper found. -/
def issuesOf (audit : Audit) : Helper → List Issue
  | .tagRules => issuesFrom audit.tagRules TagRules.issues
  | .consentMode => issuesFrom audit.consent ConsentCoverage.issues
  | .triggerQuality => issuesFrom audit.triggerQuality (·.1.issues)
  | .variableQuality => issuesFrom audit.variableQuality (·.1.issues)
  | .htmlSecurity => issuesFrom audit.security ScriptSecurity.issues
  | .unresolvedReferences => issuesFrom audit.unresolved id
  | .usageGraph | .migrationSuggestions => []

/-- The helpers that find issues, in the order in which they run. -/
def finders : List Helper :=
  [.tagRules, .consentMode, .triggerQuality, .variableQuality, .htmlSecurity,
    .unresolvedReferences]

/-- The issues of an audit are those of each helper in turn. -/
theorem issues_eq_flatMap (audit : Audit) : audit.issues = finders.flatMap audit.issuesOf := by
  simp only [issues, finders, issuesOf, List.flatMap_cons, List.flatMap_nil, List.append_nil,
    List.append_assoc]

/-- An issue comes from an outcome exactly if the outcome has a result with that issue. -/
theorem mem_issuesFrom_iff {α : Type} {outcome : Outcome α} {issues : α → List Issue}
    {issue : Issue} :
    issue ∈ issuesFrom outcome issues ↔
      ∃ value, outcome.result = some value ∧ issue ∈ issues value := by
  simp only [issuesFrom, List.mem_flatMap, Option.mem_toList]

/-- A count over lists of issues that agrees with a number of every result that there is agrees with
it over the issues that come from an outcome. -/
theorem count_issuesFrom {α : Type} {outcome : Outcome α} {issues : α → List Issue}
    {count : α → Nat} (total : List Issue → Nat) (hnil : total [] = 0)
    (h : ∀ value, outcome.result = some value → total (issues value) = count value) :
    total (issuesFrom outcome issues) = countFrom outcome count := by
  cases hr : outcome.result with
  | none => simp [issuesFrom, countFrom, hr, hnil]
  | some value => simp [issuesFrom, countFrom, hr, h value hr]

/-- The counter of a category's name counts the issues of the category. -/
theorem counter_index (audit : Audit) (category : Category) :
    audit.index.counter category.name = countOf category audit.issues := by
  rw [index, IssueIndex.counter_ofRecords, count_categories_toRecord]

/-- The counters of an index add up to the number of issues: each has one category. -/
theorem counterSum_index (audit : Audit) : audit.index.counterSum = audit.issues.length := by
  rw [index, IssueIndex.counterSum_ofRecords, flatMap_categories_toRecord, List.length_map]

/-- An index holds the records of the issues. -/
theorem records_index_perm (audit : Audit) :
    audit.index.records.Perm (audit.issues.map Issue.toRecord) :=
  IssueIndex.records_ofRecords_perm _

section OfData

variable {config : Config} {prevented : Helper → Bool} {data : Json}

/-- An issue that a helper found is of a category that it finds. -/
theorem finder_of_mem_issuesOf {helper : Helper} {issue : Issue}
    (hi : issue ∈ (ofData config prevented data).issuesOf helper) :
    issue.category.finder = helper := by
  cases helper with
  | usageGraph => cases hi
  | tagRules =>
    obtain ⟨rules, hr, hi⟩ := mem_issuesFrom_iff.mp hi
    exact TagRules.finder_of_mem_issues _ _ ((eq_of_tagRules hr).symm ▸ hi)
  | consentMode =>
    obtain ⟨coverage, -, hi⟩ := mem_issuesFrom_iff.mp hi
    rw [ConsentCoverage.category_of_mem_issues hi]
    rfl
  | triggerQuality =>
    obtain ⟨report, hr, hi⟩ := mem_issuesFrom_iff.mp hi
    exact TriggerQuality.finder_of_mem_issues (eq_of_triggerQuality hr) hi
  | variableQuality =>
    obtain ⟨report, hr, hi⟩ := mem_issuesFrom_iff.mp hi
    exact VariableQuality.finder_of_mem_issues (eq_of_variableQuality hr) hi
  | htmlSecurity =>
    obtain ⟨security, -, hi⟩ := mem_issuesFrom_iff.mp hi
    exact security.finder_of_mem_issues hi
  | unresolvedReferences =>
    obtain ⟨unresolved, hr, hi⟩ := mem_issuesFrom_iff.mp hi
    rw [category_of_mem_unresolved hr hi]
    rfl
  | migrationSuggestions => cases hi

/-- The issues of a category are those that its finder found. -/
theorem countOf_issues (category : Category) :
    countOf category (ofData config prevented data).issues =
      countOf category ((ofData config prevented data).issuesOf category.finder) := by
  have hz : ∀ helper, category.finder ≠ helper →
      countOf category ((ofData config prevented data).issuesOf helper) = 0 :=
    fun helper hne => countOf_eq_zero category (fun _ => finder_of_mem_issuesOf) hne
  rw [issues_eq_flatMap]
  cases category <;> simp only [Category.finder, ne_eq] at hz ⊢ <;> simp [finders, hz]

end OfData

end TagAudit.Audit
