import TagAudit.Proofs.Agreement
import TagAudit.Proofs.Consent.Issues
import TagAudit.Proofs.Distinct
import TagAudit.Proofs.Tags.Issues

/-!
# Tags in another order

What the rules for tags, the coverage of consent and the security of scripts find in a container
with its tags in another order: the same numbers, and issues that differ in their order, their words
and their facts alone.
-/

namespace TagAudit

/-- A container with other tags. -/
def Container.withTags (container : Container) (tags : List Tag) : Container :=
  { container with tags := tags }

@[simp] theorem Container.tags_withTags (container : Container) (tags : List Tag) :
    (container.withTags tags).tags = tags := rfl

@[simp] theorem Container.triggers_withTags (container : Container) (tags : List Tag) :
    (container.withTags tags).triggers = container.triggers := rfl

@[simp] theorem Container.userVariables_withTags (container : Container) (tags : List Tag) :
    (container.withTags tags).userVariables = container.userVariables := rfl

/-- What an issue is about, its category and its severity. -/
def Issue.summary (issue : Issue) : EntityKind × String × Category × Severity :=
  (issue.kind, issue.entityId, issue.category, issue.severity)

/-- Issues that differ in their order, their words and their facts alone. -/
def Issue.Alike (xs ys : List Issue) : Prop := (xs.map Issue.summary).Perm (ys.map Issue.summary)

namespace Issue.Alike

variable {xs ys zs ws : List Issue}

theorem refl (xs : List Issue) : Alike xs xs := List.Perm.refl _

theorem append (h : Alike xs ys) (hrest : Alike zs ws) : Alike (xs ++ zs) (ys ++ ws) := by
  unfold Alike
  rw [List.map_append, List.map_append]
  exact List.Perm.append h hrest

theorem length_eq (h : Alike xs ys) : xs.length = ys.length := by
  simpa using List.Perm.length_eq h

/-- An entity identifier has issues among both or among neither. -/
theorem any_entityId_eq (h : Alike xs ys) (id : String) :
    xs.any (·.entityId == id) = ys.any (·.entityId == id) := by
  have hany := List.Perm.any_eq (f := fun summary => summary.2.1 == id) h
  rwa [List.any_map, List.any_map] at hany

/-- The issues of some categories are as many. -/
theorem countP_category_eq (h : Alike xs ys) (p : Category → Bool) :
    xs.countP (p ·.category) = ys.countP (p ·.category) := by
  have hcount := List.Perm.countP_eq (fun summary => p summary.2.2.1) h
  rwa [List.countP_map, List.countP_map] at hcount

end Issue.Alike

/-- Rules that found the same, with tags in another order. -/
structure TagRules.Alike (a b : TagRules) : Prop where
  total : a.total = b.total
  paused : a.paused = b.paused
  obsolete : a.obsolete = b.obsolete
  badlyNamed : a.badlyNamed = b.badlyNamed
  untriggered : a.untriggered = b.untriggered
  dangling : a.dangling = b.dangling
  clean : a.clean = b.clean
  detected : a.doublePageView.detected = b.doublePageView.detected
  onHistoryChange : a.doublePageView.onHistoryChange = b.doublePageView.onHistoryChange
  triggerNaming : a.triggerNaming = b.triggerNaming
  variableNaming : a.variableNaming = b.variableNaming
  tagIssues : Issue.Alike a.tagIssues b.tagIssues

/-- Coverages of the same tags in another order. -/
def ConsentCoverage.Alike (a b : ConsentCoverage) : Prop := a.verdicts.Perm b.verdicts

/-- Securities of the same scripts in another order. -/
structure ScriptSecurity.Alike (a b : ScriptSecurity) : Prop where
  checked : a.checked = b.checked
  reviews : a.reviews.Perm b.reviews

variable {config : Config} {container : Container} {tags : List Tag}

section Reordered

variable (h : container.tags.Perm tags)

include h

namespace DoublePageView

/-- The same page views are doubled. -/
theorem flagged_perm : (ofContainer container).flagged.Perm
    (ofContainer (container.withTags tags)).flagged := by
  have hconfiguring := h.filter Tag.configuresPageView
  have hmanual := h.filter Tag.sendsManualPageView
  refine (hmanual.filter _).trans (List.Perm.of_eq (List.filter_congr fun tag _ => ?_))
  rw [hconfiguring.any_eq, hconfiguring.isEmpty_eq]
  rfl

theorem detected_withTags : (ofContainer container).detected =
    (ofContainer (container.withTags tags)).detected := by
  rw [detected, detected, (flagged_perm h).isEmpty_eq]

theorem onHistoryChange_withTags : (ofContainer container).onHistoryChange =
    (ofContainer (container.withTags tags)).onHistoryChange := by
  have hconfiguring := h.filter Tag.configuresPageView
  have hmanual := h.filter Tag.sendsManualPageView
  simp only [ofContainer, Container.tags_withTags, hmanual.any_eq, hconfiguring.isEmpty_eq]
  rfl

end DoublePageView

namespace TagRules

/-- A tag has the same issues. -/
private theorem map_summary_issuesOfTag (tag : Tag) :
    (issuesOfTag config container (DoublePageView.ofContainer container) tag).map Issue.summary =
      (issuesOfTag config (container.withTags tags)
        (DoublePageView.ofContainer (container.withTags tags)) tag).map Issue.summary := by
  have hflagged := ((DoublePageView.flagged_perm h).map (·.id)).contains_eq (a := tag.id)
  have hdangling : danglingIds (container.withTags tags) tag = danglingIds container tag := rfl
  simp only [issuesOfTag, issueIf, hdangling, hflagged, List.map_append, apply_ite (List.map _)]
  rfl

/-- The rules find the same. -/
theorem alike_withTags :
    Alike (ofContainer config container) (ofContainer config (container.withTags tags)) where
  total := h.length_eq
  paused := h.countP_eq _
  obsolete := h.countP_eq _
  badlyNamed := h.countP_eq _
  untriggered := h.countP_eq _
  dangling := h.countP_eq _
  clean := by
    refine (h.countP_eq _).trans (List.countP_congr fun tag _ => ?_)
    rw [← List.isEmpty_map, map_summary_issuesOfTag h, List.isEmpty_map]
  detected := DoublePageView.detected_withTags h
  onHistoryChange := DoublePageView.onHistoryChange_withTags h
  triggerNaming := rfl
  variableNaming := rfl
  tagIssues := by
    simp only [Issue.Alike, ofContainer, List.map_flatMap]
    refine h.flatMap fun tag _ => ?_
    rw [map_summary_issuesOfTag h]

end TagRules

/-- The verdicts on tags do not depend on their order. -/
theorem ConsentCoverage.alike_withTags : Option.Rel Alike (ofContainer container).toOption
    (ofContainer (container.withTags tags)).toOption := by
  rw [ofContainer, ofContainer, Failure.toOption_map, Failure.toOption_map]
  have hverdicts := Failure.rel_mapM_of_perm ConsentVerdict.ofTag (h.filter Marketing.isMarketing)
  exact Failure.rel_map hverdicts fun _ _ hperm => hperm

/-- The reviews of scripts do not depend on the order of tags. -/
theorem ScriptSecurity.alike_withTags : Option.Rel Alike (ofContainer config container).toOption
    (ofContainer config (container.withTags tags)).toOption := by
  have hscripts := h.filter (·.kind == "html")
  rw [ofContainer, ofContainer, Failure.toOption_map, Failure.toOption_map]
  have hreviews := Failure.rel_mapM_of_perm (ScriptReview.ofTag? config container) hscripts
  exact Failure.rel_map hreviews fun _ _ hperm => ⟨hscripts.length_eq, hperm.filterMap id⟩

end Reordered

namespace TagRules.Alike

variable {a b : TagRules} (h : a.Alike b)

include h

/-- The issues are alike. -/
theorem issues : Issue.Alike a.issues b.issues := by
  rw [TagRules.issues, TagRules.issues, h.triggerNaming, h.variableNaming]
  exact h.tagIssues.append (.refl _)

theorem allBadNames : a.allBadNames = b.allBadNames := by
  simp only [TagRules.allBadNames, h.badlyNamed, h.triggerNaming, h.variableNaming]

theorem status : a.status = b.status := by
  rw [TagRules.status, TagRules.status, h.allBadNames, h.total, h.clean, h.detected, h.obsolete,
    h.untriggered, h.dangling]

theorem message : a.message = b.message := by
  rw [TagRules.message, TagRules.message, otherBadNames, otherBadNames, h.status, h.total, h.clean,
    h.triggerNaming, h.variableNaming]

end TagRules.Alike

namespace ConsentCoverage.Alike

variable {a b : ConsentCoverage} (h : a.Alike b)

include h

theorem checked : a.checked = b.checked := List.Perm.length_eq h

theorem count (state : ConsentState) : a.count state = b.count state := List.Perm.countP_eq _ h

theorem problems : a.problems = b.problems := by
  simp only [ConsentCoverage.problems, h.count]

theorem score {α : Type} [Scalar α] : (a.score : α) = b.score := by
  simp only [ConsentCoverage.score, h.checked, h.count]

theorem message : a.message = b.message := by
  have hcritical : a.verdicts.any (·.severity == some .critical) =
      b.verdicts.any (·.severity == some .critical) := List.Perm.any_eq h
  simp only [ConsentCoverage.message, status, hcritical, h.checked, h.count, h.problems]

/-- The issues are alike. -/
theorem issues : Issue.Alike a.issues b.issues := (List.Perm.filterMap _ h).map _

end ConsentCoverage.Alike

namespace ScriptSecurity.Alike

variable {a b : ScriptSecurity} (h : a.Alike b)

include h

theorem count (severity : Severity) : a.count severity = b.count severity :=
  h.reviews.countP_eq _

theorem flagged : a.flagged = b.flagged := by
  simp only [ScriptSecurity.flagged, h.count]

theorem score {α : Type} [Scalar α] (config : Config) : (a.score config : α) = b.score config := by
  simp only [ScriptSecurity.score, penalty, h.checked, h.count]

theorem message : a.message = b.message := by
  simp only [ScriptSecurity.message, ScriptSecurity.status, h.checked, h.flagged, h.count]

/-- The issues are alike. -/
theorem issues : Issue.Alike a.issues b.issues := (h.reviews.map _).map _

end ScriptSecurity.Alike

end TagAudit
