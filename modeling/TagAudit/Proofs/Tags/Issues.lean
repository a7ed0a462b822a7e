import TagAudit.Proofs.Category
import TagAudit.Tags.Migration
import TagAudit.Tags.Rules
import TagAudit.Tags.Security

/-!
# Issues of tags

A tag has one issue for every rule that it breaks and no other, so the statistics, which count
tags, and the issues, which are listed tag by tag, tell the same numbers. A script tag with
findings has one more.
-/

namespace TagAudit.TagRules

open Issue

/-- Does a tag break the rule that a category is for? -/
def breaks (config : Config) (container : Container) (double : DoublePageView) (tag : Tag) :
    Category → Bool
  | .paused => tag.paused
  | .uaObsolete => tag.isUniversalAnalytics
  | .naming => !(Naming.faults config tag.name).isEmpty
  | .noTrigger => tag.firingTriggerIds.isEmpty
  | .danglingTrigger => !(danglingIds container tag).isEmpty
  | .doublePageview => (double.flagged.map (·.id)).contains tag.id
  | _ => false

/-- A reasoned issue counts for its own category. -/
@[simp] theorem countOf_issueIf (category : Category) (applies : Bool) (issue : Issue) :
    countOf category (issueIf applies issue) =
      (applies && decide (issue.category = category)).toNat :=
  countOf_ite_singleton category applies issue

/-- A name has a naming issue exactly if it breaks a rule, and that is of the category naming. -/
theorem namingIssue?_eq (config : Config) (kind : EntityKind) (id name : String) :
    namingIssue? config kind (id, name) =
      if (Naming.faults config name).isEmpty then none
      else some ⟨kind, id, name, .naming, .minor,
        s!"Name '{name}' " ++ "; ".intercalate (Naming.violations config name),
        Naming.suggestion name, [("violations", .strings (Naming.violations config name))]⟩ := by
  simp only [namingIssue?, Naming.violations, List.isEmpty_map]

/-- The naming issue of a name counts as naming, once. -/
theorem countOf_namingIssue? (category : Category) (config : Config) (kind : EntityKind)
    (id name : String) :
    countOf category (namingIssue? config kind (id, name)).toList =
      (!(Naming.faults config name).isEmpty && decide (Category.naming = category)).toNat := by
  rw [namingIssue?_eq]
  cases (Naming.faults config name).isEmpty with
  | true => rfl
  | false => exact countOf_ite_singleton category true _

/-- A tag has one issue for each rule that it breaks. -/
theorem countOf_issuesOfTag (category : Category) (config : Config) (container : Container)
    (double : DoublePageView) (tag : Tag) :
    countOf category (issuesOfTag config container double tag) =
      (breaks config container double tag category).toNat := by
  simp only [issuesOfTag, countOf_append, countOf_issueIf, countOf_namingIssue?, tagIssue]
  cases category <;> simp [breaks]

/-- Issues of naming are issues of the entities whose names break a rule. -/
theorem category_of_mem_filterMap {config : Config} {kind : EntityKind}
    {entities : List (String × String)} {issue : Issue}
    (hi : issue ∈ entities.filterMap (namingIssue? config kind)) : issue.category = .naming := by
  obtain ⟨⟨id, name⟩, -, he⟩ := List.mem_filterMap.mp hi
  rw [namingIssue?_eq] at he
  split at he
  · simp at he
  · exact (Option.some.inj he) ▸ rfl

/-- The issues of naming are all of that category. -/
theorem countOf_filterMap_namingIssue? (category : Category) (config : Config)
    (kind : EntityKind) (entities : List (String × String)) :
    countOf category (entities.filterMap (namingIssue? config kind)) =
      if category = .naming then (entities.filterMap (namingIssue? config kind)).length else 0 := by
  by_cases h : category = .naming
  · rw [if_pos h, h, countOf, List.countP_eq_length]
    intro issue hi
    simp [category_of_mem_filterMap hi]
  · rw [if_neg h, countOf, List.countP_eq_zero]
    intro issue hi
    simp [category_of_mem_filterMap hi, Ne.symm h]

section OfContainer

variable (config : Config) (container : Container)

/-- The issues of tags of a category are as many as the tags that break its rule. -/
theorem countOf_tagIssues (category : Category) :
    countOf category (ofContainer config container).tagIssues =
      container.tags.countP
        (breaks config container (DoublePageView.ofContainer container) · category) :=
  countOf_flatMap_eq_countP category fun tag _ =>
    countOf_issuesOfTag category config container _ tag

/-- All issues of a category: those of tags, and the names of the other entities. -/
theorem countOf_issues (category : Category) :
    countOf category (ofContainer config container).issues =
      container.tags.countP
        (breaks config container (DoublePageView.ofContainer container) · category) +
      if category = .naming then (ofContainer config container).otherBadNames else 0 := by
  rw [issues, countOf_append, countOf_append, countOf_tagIssues]
  simp only [ofContainer, countOf_filterMap_namingIssue?, otherBadNames]
  split <;> rfl

/-- Every issue is of a category that these rules are for. -/
theorem finder_of_mem_issues {issue : Issue} (hi : issue ∈ (ofContainer config container).issues) :
    issue.category.finder = .tagRules := by
  have hpos : 0 < countOf issue.category (ofContainer config container).issues :=
    List.countP_pos_iff.mpr ⟨issue, hi, beq_self_eq_true _⟩
  rw [countOf_issues] at hpos
  revert hpos
  cases issue.category <;> simp [breaks, Category.finder]

/-- The paused tags are counted by their issues. -/
theorem countOf_paused_issues :
    countOf .paused (ofContainer config container).issues =
      (ofContainer config container).paused := by
  rw [countOf_issues]
  rfl

/-- The obsolete tags are counted by their issues. -/
theorem countOf_uaObsolete_issues :
    countOf .uaObsolete (ofContainer config container).issues =
      (ofContainer config container).obsolete := by
  rw [countOf_issues]
  rfl

/-- The tags without a firing trigger are counted by their issues. -/
theorem countOf_noTrigger_issues :
    countOf .noTrigger (ofContainer config container).issues =
      (ofContainer config container).untriggered := by
  rw [countOf_issues]
  rfl

/-- The tags with dangling identifiers are counted by their issues. -/
theorem countOf_danglingTrigger_issues :
    countOf .danglingTrigger (ofContainer config container).issues =
      (ofContainer config container).dangling := by
  rw [countOf_issues]
  rfl

/-- The bad names of all entities are counted by their issues. -/
theorem countOf_naming_issues :
    countOf .naming (ofContainer config container).issues =
      (ofContainer config container).allBadNames := by
  rw [countOf_issues, if_pos rfl, allBadNames, otherBadNames, Nat.add_assoc]
  rfl

/-- There is an issue of a doubled page view exactly if one is detected: the flagged tags are tags
of the container. -/
theorem countOf_doublePageview_issues_pos_iff :
    0 < countOf .doublePageview (ofContainer config container).issues ↔
      (ofContainer config container).doublePageView.detected = true := by
  have hsub : ∀ tag ∈ (DoublePageView.ofContainer container).flagged, tag ∈ container.tags :=
    fun tag ht => List.mem_of_mem_filter (List.mem_of_mem_filter ht)
  simp only [countOf_issues, reduceCtorEq, ite_false, Nat.add_zero, List.countP_pos_iff, breaks,
    List.contains_iff_mem, List.mem_map, DoublePageView.detected]
  change _ ↔ (!(DoublePageView.ofContainer container).flagged.isEmpty) = true
  constructor
  · rintro ⟨tag, -, other, ho, -⟩
    simpa using List.ne_nil_of_mem ho
  · intro hd
    obtain ⟨tag, ht⟩ := List.exists_mem_of_ne_nil _ (by simpa using hd)
    exact ⟨tag, hsub tag ht, tag, ht, rfl⟩

end OfContainer

/-- Every obsolete tag has one suggestion for its migration. -/
theorem length_migrationSuggestions (config : Config) (container : Container) :
    (MigrationSuggestion.ofContainer container).length =
      (ofContainer config container).obsolete := by
  rw [MigrationSuggestion.ofContainer, List.length_map, ← List.countP_eq_length_filter]
  rfl

end TagAudit.TagRules

namespace TagAudit.ScriptSecurity

open Issue

variable (security : ScriptSecurity)

/-- Every reviewed script tag has one issue, of the severity of its worst finding: the issues of a
severity are the reviews of that severity. -/
theorem countOf_htmlSecurity_issues (severity : Severity) :
    countOf (.htmlSecurity severity) security.issues = security.count severity := by
  rw [countOf, issues, List.countP_map, count]
  congr 1
  funext review
  simp [ScriptReview.issue, beq_eq_decide]

/-- Every issue is of a category for scripts. -/
theorem finder_of_mem_issues {issue : Issue} (hi : issue ∈ security.issues) :
    issue.category.finder = .htmlSecurity := by
  obtain ⟨review, -, rfl⟩ := List.mem_map.mp hi
  rfl

end TagAudit.ScriptSecurity
