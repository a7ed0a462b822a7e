import TagAudit.Proofs.Severity
import TagAudit.Proofs.Tags.Issues

/-!
# Statistics of tags and their issues

The rules for tags count tags and look up doubled page views; their issues are listed apart. Both
tell the same: how many tags are clean, how many break a rule, whose names are bad, and how serious
the worst problem is.
-/

namespace TagAudit.TagRules

open Issue

/-- How serious it is to break the rule that a category is for. -/
def severityOf : Category → Severity
  | .doublePageview => .critical
  | .uaObsolete | .noTrigger | .danglingTrigger => .major
  | _ => .minor

section Names

variable (config : Config) (kind : EntityKind) (entities : List (String × String))

/-- A naming issue is a minor one, of the entity that it is made for. -/
theorem fields_of_namingIssue? {config : Config} {kind : EntityKind} {entity : String × String}
    {issue : Issue} (h : namingIssue? config kind entity = some issue) :
    issue.category = .naming ∧ issue.severity = .minor ∧ issue.entityName = entity.2 := by
  obtain ⟨id, name⟩ := entity
  rw [namingIssue?_eq] at h
  split at h
  · cases h
  · cases h
    exact ⟨rfl, rfl, rfl⟩

/-- Naming issues list the names that break a rule, in their order. -/
theorem map_entityName_filterMap :
    (entities.filterMap (namingIssue? config kind)).map (·.entityName) =
      (entities.map (·.2)).filter fun name => Naming.violations config name ≠ [] := by
  induction entities with
  | nil => rfl
  | cons entity rest ih =>
    obtain ⟨id, name⟩ := entity
    rw [List.filterMap_cons, List.map_cons, List.filter_cons, ← ih, namingIssue?_eq]
    by_cases hbroken : Naming.faults config name = [] <;> simp [Naming.violations, hbroken]

/-- The names with naming issues are shown in their order. -/
theorem badNames_filterMap :
    badNames (entities.filterMap (namingIssue? config kind)) =
      .strings ((entities.map (·.2)).filter fun name => Naming.violations config name ≠ []) := by
  rw [badNames, List.filter_eq_self.mpr, map_entityName_filterMap]
  intro issue hissue
  rw [category_of_mem_filterMap hissue]
  rfl

end Names

section OfTag

variable {config : Config} {container : Container} {double : DoublePageView} {tag : Tag}

/-- The issues of a tag are as serious as their rules. -/
theorem severity_of_mem_issuesOfTag {issue : Issue}
    (hi : issue ∈ issuesOfTag config container double tag) :
    issue.severity = severityOf issue.category := by
  simp only [issuesOfTag, issueIf, List.mem_append, Option.mem_toList, List.mem_ite_nil_right,
    List.mem_singleton] at hi
  rcases hi with ((((⟨-, rfl⟩ | ⟨-, rfl⟩) | h) | ⟨-, rfl⟩) | ⟨-, rfl⟩) | ⟨-, rfl⟩
  case inl.inl.inl.inr =>
    obtain ⟨hcategory, hseverity, -⟩ := fields_of_namingIssue? h
    rw [hcategory, hseverity]
    rfl
  all_goals rfl

/-- The naming issue of a tag is that of its name. -/
theorem filter_naming_issuesOfTag (config : Config) (container : Container)
    (double : DoublePageView) (tag : Tag) :
    (issuesOfTag config container double tag).filter (·.category == .naming) =
      (namingIssue? config .tag (tag.id, tag.name)).toList := by
  have hother : ∀ (applies : Bool) (issue : Issue), issue.category ≠ .naming →
      (issueIf applies issue).filter (·.category == .naming) = [] := by
    intro applies issue hne
    cases applies <;> simp [issueIf, hne]
  have hnaming : (namingIssue? config .tag (tag.id, tag.name)).toList.filter
      (·.category == .naming) = (namingIssue? config .tag (tag.id, tag.name)).toList := by
    refine List.filter_eq_self.mpr fun issue hissue => ?_
    rw [(fields_of_namingIssue? (Option.mem_toList.mp hissue)).1]
    rfl
  simp only [issuesOfTag, List.filter_append, hnaming]
  simp [hother, tagIssue]

end OfTag

section OfContainer

variable (config : Config) (container : Container)

/-- The naming issues of tags are those of their names. -/
theorem filter_naming_tagIssues :
    (ofContainer config container).tagIssues.filter (·.category == .naming) =
      (container.entities .tag).filterMap (namingIssue? config .tag) := by
  simp only [ofContainer, Container.entities, List.filter_flatMap, filter_naming_issuesOfTag,
    List.filterMap_map]
  exact (List.filterMap_eq_flatMap_toList ..).symm

/-- The bad names of every kind of entities are shown in the order of the container. -/
theorem badNames_toJson (kind : EntityKind) :
    ((ofContainer config container).toJson.get "bad_names").get (kind.name ++ "s") =
      .strings (((container.entities kind).map (·.2)).filter fun name =>
        Naming.violations config name ≠ []) := by
  cases kind with
  | tag =>
    have htags : badNames (ofContainer config container).tagIssues =
        badNames ((container.entities .tag).filterMap (namingIssue? config .tag)) := by
      rw [← filter_naming_tagIssues, badNames, badNames, List.filter_filter]
      simp
    exact htags.trans (badNames_filterMap ..)
  | trigger => exact badNames_filterMap ..
  | «variable» => exact badNames_filterMap ..

/-- The issues of all kinds of entities are as serious as their rules. -/
theorem severity_of_mem_issues {issue : Issue}
    (hi : issue ∈ (ofContainer config container).issues) :
    issue.severity = severityOf issue.category := by
  have hnaming : ∀ {kind},
      issue ∈ (container.entities kind).filterMap (namingIssue? config kind) →
      issue.severity = severityOf issue.category := by
    intro kind h
    obtain ⟨entity, -, hissue⟩ := List.mem_filterMap.mp h
    obtain ⟨hcategory, hseverity, -⟩ := fields_of_namingIssue? hissue
    rw [hcategory, hseverity]
    rfl
  rcases List.mem_append.mp hi with h | h
  · obtain ⟨tag, -, h⟩ := List.mem_flatMap.mp h
    exact severity_of_mem_issuesOfTag h
  · exact (List.mem_append.mp h).elim hnaming hnaming

/-- A severity occurs among the issues exactly if there are issues of a rule that is as serious. -/
theorem mem_severities_iff (severity : Severity) :
    severity ∈ (ofContainer config container).issues.map (·.severity) ↔
      ∃ category, severityOf category = severity ∧
        0 < countOf category (ofContainer config container).issues := by
  rw [List.mem_map]
  constructor
  · rintro ⟨issue, hissue, rfl⟩
    refine ⟨issue.category, (severity_of_mem_issues config container hissue).symm, ?_⟩
    exact List.countP_pos_iff.mpr ⟨issue, hissue, beq_self_eq_true _⟩
  · rintro ⟨category, rfl, hpos⟩
    obtain ⟨issue, hissue, hcategory⟩ := List.countP_pos_iff.mp hpos
    refine ⟨issue, hissue, ?_⟩
    rw [severity_of_mem_issues config container hissue, beq_iff_eq.mp hcategory]

/-- Only a doubled page view is critical. -/
theorem critical_mem_severities_iff :
    .critical ∈ (ofContainer config container).issues.map (·.severity) ↔
      (ofContainer config container).doublePageView.detected = true := by
  have hcritical : ∀ category, severityOf category = .critical ↔ category = .doublePageview := by
    intro category
    cases category <;> simp [severityOf]
  rw [mem_severities_iff, ← countOf_doublePageview_issues_pos_iff]
  simp only [hcritical, exists_eq_left]

/-- The obsolete and untriggered tags and those with dangling identifiers are major problems. -/
theorem major_mem_severities_iff :
    .major ∈ (ofContainer config container).issues.map (·.severity) ↔
      (ofContainer config container).obsolete ≠ 0 ∨
        (ofContainer config container).untriggered ≠ 0 ∨
        (ofContainer config container).dangling ≠ 0 := by
  have hmajor : ∀ category, severityOf category = .major ↔
      category = .uaObsolete ∨ category = .noTrigger ∨ category = .danglingTrigger := by
    intro category
    cases category <;> simp [severityOf]
  simp only [mem_severities_iff, hmajor, or_and_right, exists_or, exists_eq_left,
    countOf_uaObsolete_issues, countOf_noTrigger_issues, countOf_danglingTrigger_issues,
    Nat.pos_iff_ne_zero]

/-- Every tag is clean or has an issue. -/
theorem clean_add_flagged : (ofContainer config container).clean +
    (container.tags.countP fun tag => issuesOfTag config container
      (DoublePageView.ofContainer container) tag ≠ []) = (ofContainer config container).total := by
  have hsplit := container.tags.length_eq_countP_add_countP fun tag =>
    (issuesOfTag config container (DoublePageView.ofContainer container) tag).isEmpty
  simp only [List.isEmpty_iff] at hsplit
  exact hsplit.symm

/-- Where nothing is more serious, tags that are not clean and bad names are minor problems. -/
theorem minor_mem_severities_iff
    (hcritical : ¬ (ofContainer config container).doublePageView.detected = true)
    (hmajor : ¬ ((ofContainer config container).obsolete ≠ 0 ∨
      (ofContainer config container).untriggered ≠ 0 ∨
      (ofContainer config container).dangling ≠ 0)) :
    ((ofContainer config container).total - (ofContainer config container).clean ≠ 0 ∨
        (ofContainer config container).allBadNames ≠ 0) ↔
      .minor ∈ (ofContainer config container).issues.map (·.severity) := by
  let flagged := container.tags.countP fun tag =>
    issuesOfTag config container (DoublePageView.ofContainer container) tag ≠ []
  have hflagged : (ofContainer config container).clean + flagged =
    (ofContainer config container).total := clean_add_flagged config container
  have hminor : ∀ issue ∈ (ofContainer config container).issues, issue.severity = .minor := by
    intro issue hissue
    have hmem := List.mem_map_of_mem (f := Issue.severity) hissue
    cases hs : issue.severity with
    | minor => rfl
    | major => exact absurd ((major_mem_severities_iff ..).mp (hs ▸ hmem)) hmajor
    | critical => exact absurd ((critical_mem_severities_iff ..).mp (hs ▸ hmem)) hcritical
  constructor
  · rintro (hproblems | hnames)
    · have hpos : 0 < flagged := by omega
      obtain ⟨tag, htag, hissues⟩ := List.countP_pos_iff.mp hpos
      obtain ⟨issue, hissue⟩ := List.exists_mem_of_ne_nil _ (of_decide_eq_true hissues)
      have hmem : issue ∈ (ofContainer config container).issues :=
        List.mem_append_left _ (List.mem_flatMap.mpr ⟨tag, htag, hissue⟩)
      exact List.mem_map.mpr ⟨issue, hmem, hminor issue hmem⟩
    · refine (mem_severities_iff ..).mpr ⟨.naming, rfl, ?_⟩
      rw [countOf_naming_issues]
      exact Nat.pos_of_ne_zero hnames
  · intro hmem
    obtain ⟨issue, hissue, -⟩ := List.mem_map.mp hmem
    rcases List.mem_append.mp hissue with htags | hnames
    · obtain ⟨tag, htag, hissue⟩ := List.mem_flatMap.mp htags
      have hpos : 0 < flagged :=
        List.countP_pos_iff.mpr ⟨tag, htag, decide_eq_true (List.ne_nil_of_mem hissue)⟩
      omega
    · have hlength := List.length_pos_of_mem hnames
      rw [List.length_append] at hlength
      rw [allBadNames]
      omega

/-- The headline is as serious as the worst issue. -/
theorem isWorst_status : Severity.IsWorst
    ((ofContainer config container).issues.map (·.severity))
    (ofContainer config container).status :=
  Severity.isWorst_ite (critical_mem_severities_iff ..).symm (major_mem_severities_iff ..).symm
    (minor_mem_severities_iff config container)

end OfContainer

/-- The statistics, the bad names and the headline of the rules for a container tell what the issues
tell. -/
structure FollowsIssues (rules : TagRules) (config : Config) (container : Container) : Prop where
  /-- The issues of tags are those of each tag in turn. -/
  byTag : rules.tagIssues =
    container.tags.flatMap (issuesOfTag config container rules.doublePageView)
  clean : rules.clean + (container.tags.countP fun tag =>
    issuesOfTag config container rules.doublePageView tag ≠ []) = rules.total
  untriggered : rules.untriggered = countOf .noTrigger rules.issues
  dangling : rules.dangling = countOf .danglingTrigger rules.issues
  /-- For every kind of entities the names that break a rule are shown, in their order. -/
  badNames : ∀ kind : EntityKind, (rules.toJson.get "bad_names").get (kind.name ++ "s") =
    .strings (((container.entities kind).map (·.2)).filter fun name =>
      Naming.violations config name ≠ [])
  status : Severity.IsWorst (rules.issues.map (·.severity)) rules.message.status

/-- Statistics and issues never drift apart. -/
theorem followsIssues_ofContainer (config : Config) (container : Container) :
    (ofContainer config container).FollowsIssues config container where
  byTag := rfl
  clean := clean_add_flagged config container
  untriggered := (countOf_noTrigger_issues config container).symm
  dangling := (countOf_danglingTrigger_issues config container).symm
  badNames := badNames_toJson config container
  status := isWorst_status config container

end TagAudit.TagRules
