import TagAudit.Proofs.Category
import TagAudit.Proofs.Failure
import TagAudit.Triggers.Quality

/-!
# Issues of triggers

What the quality of triggers is made of when it can be judged at all, and how many issues of each
category it has: one for each trigger that breaks the category's rule.
-/

namespace TagAudit

open Issue

namespace Trigger

/-- A trigger with the answer whether it fires on every page. -/
def judge (trigger : Trigger) : Except AnalysisError (Trigger × Bool) :=
  trigger.firesOnAllPages.map (trigger, ·)

/-- Judging keeps the trigger. -/
theorem fst_eq_of_judge {trigger : Trigger} {judged : Trigger × Bool}
    (h : trigger.judge = .ok judged) : judged.1 = trigger := by
  obtain ⟨_, -, rfl⟩ := Failure.map_eq_ok_iff.mp h
  rfl

end Trigger

namespace TriggerQuality

/-- The duplicates of a container, each with the first of its group. -/
def duplicatesOf (container : Container) : List (String × String) :=
  (Trigger.duplicateGroups container.triggers).flatMap duplicatesIn

/-- The quality of triggers that were judged, with the wrong blockings that were found. -/
def ofJudged (container : Container) (referenced : List String) (blockings : List Blocking)
    (judged : List (Trigger × Bool)) : TriggerQuality where
  total := container.triggers.length
  unused := container.triggers.countP fun trigger => !referenced.contains trigger.id
  onAllPages := judged.countP (·.2)
  badlyTimed := container.triggers.countP (isBadlyTimed container)
  duplicateGroups := Trigger.duplicateGroups container.triggers
  duplicates := duplicatesOf container
  blockings := blockings
  blockingMarketing := ((reviewedTags container).flatMap (·.blockingTriggerIds)).eraseDups.length
  historyChange := container.triggers.any (·.family == "HISTORY_CHANGE")
  issues := judged.flatMap fun (trigger, onAllPages) =>
    issuesOfTrigger container referenced (duplicatesOf container) blockings trigger onAllPages

/-- The quality of a container is that of its wrong blockings and its judged triggers. -/
theorem ofContainer_eq (container : Container) (referenced : List String) :
    ofContainer container referenced =
      (wrongBlockings container).bind fun blockings =>
        (container.triggers.mapM Trigger.judge).map (ofJudged container referenced blockings) := by
  change ((wrongBlockings container).bind fun blockings =>
    (container.triggers.mapM Trigger.judge).bind fun judged =>
      .ok (ofJudged container referenced blockings judged)) = _
  congr 1

/-- A quality that was judged comes from wrong blockings and judged triggers. -/
theorem exists_of_ofContainer_eq_ok {container : Container} {referenced : List String}
    {quality : TriggerQuality} (h : ofContainer container referenced = .ok quality) :
    ∃ blockings judged, container.triggers.mapM Trigger.judge = .ok judged ∧
      ofJudged container referenced blockings judged = quality := by
  rw [ofContainer_eq] at h
  obtain ⟨blockings, -, h⟩ := Failure.bind_eq_ok_iff.mp h
  obtain ⟨judged, hj, he⟩ := Failure.map_eq_ok_iff.mp h
  exact ⟨blockings, judged, hj, he⟩

/-- Does a judged trigger break the rule that a category is for? -/
def breaks (container : Container) (referenced : List String)
    (duplicates : List (String × String)) (blockings : List Blocking)
    (judged : Trigger × Bool) : Category → Bool
  | .triggerAllPages => judged.2
  | .triggerTiming => isBadlyTimed container judged.1
  | .triggerUnused => !referenced.contains judged.1.id
  | .triggerDuplicate => (firstOf? duplicates judged.1.id).isSome
  | .triggerBlocking => !(blockings.filter (·.triggerId == judged.1.id)).isEmpty
  | _ => false

/-- A trigger has one issue for each rule that it breaks. -/
theorem countOf_issuesOfTrigger (category : Category) (container : Container)
    (referenced : List String) (duplicates : List (String × String)) (blockings : List Blocking)
    (trigger : Trigger) (onAllPages : Bool) :
    countOf category
        (issuesOfTrigger container referenced duplicates blockings trigger onAllPages) =
      (breaks container referenced duplicates blockings (trigger, onAllPages) category).toNat := by
  have hdup : countOf category
      ((firstOf? duplicates trigger.id).map (duplicateIssue trigger)).toList =
      ((firstOf? duplicates trigger.id).isSome &&
        decide (Category.triggerDuplicate = category)).toNat :=
    countOf_toList_map category _ fun _ => rfl
  simp only [issuesOfTrigger, countOf_append, countOf_ite_singleton, countOf_ite_nil, hdup]
  cases category <;>
    simp [breaks, allPagesIssue, timingIssue, unusedIssue, blockingIssue, triggerIssue]

section OfContainer

variable {container : Container} {referenced : List String} {quality : TriggerQuality}

theorem wrongBlockings_of_ofContainer (h : ofContainer container referenced = .ok quality) :
    wrongBlockings container = .ok quality.blockings := by
  rw [ofContainer_eq] at h
  obtain ⟨blockings, hb, h⟩ := Failure.bind_eq_ok_iff.mp h
  obtain ⟨judged, -, rfl⟩ := Failure.map_eq_ok_iff.mp h
  exact hb

theorem total_eq (h : ofContainer container referenced = .ok quality) :
    quality.total = container.triggers.length := by
  obtain ⟨blockings, judged, -, rfl⟩ := exists_of_ofContainer_eq_ok h
  rfl

theorem unused_eq (h : ofContainer container referenced = .ok quality) :
    quality.unused = container.triggers.countP fun trigger => !referenced.contains trigger.id := by
  obtain ⟨blockings, judged, -, rfl⟩ := exists_of_ofContainer_eq_ok h
  rfl

/-- The issues of a category are as many as the triggers that break its rule, in a list of triggers
with answers that keeps their order. -/
theorem countOf_issues (h : ofContainer container referenced = .ok quality) :
    ∃ judged : List (Trigger × Bool), judged.map (·.1) = container.triggers ∧
      ∀ category, countOf category quality.issues =
        judged.countP
          (breaks container referenced quality.duplicates quality.blockings · category) := by
  obtain ⟨blockings, judged, hj, rfl⟩ := exists_of_ofContainer_eq_ok h
  refine ⟨judged, Failure.map_eq_of_mapM hj fun _ _ => Trigger.fst_eq_of_judge, fun category => ?_⟩
  exact countOf_flatMap_eq_countP category fun (trigger, onAllPages) _ =>
    countOf_issuesOfTrigger category container referenced _ blockings trigger onAllPages

/-- Every issue is of a category that these rules are for. -/
theorem finder_of_mem_issues (h : ofContainer container referenced = .ok quality) {issue : Issue}
    (hi : issue ∈ quality.issues) : issue.category.finder = .triggerQuality := by
  obtain ⟨judged, -, hc⟩ := countOf_issues h
  have hpos : 0 < countOf issue.category quality.issues :=
    List.countP_pos_iff.mpr ⟨issue, hi, beq_self_eq_true _⟩
  rw [hc] at hpos
  revert hpos
  cases issue.category <;> simp [breaks, Category.finder]

/-- The unused triggers are counted by their issues. -/
theorem countOf_triggerUnused_issues (h : ofContainer container referenced = .ok quality) :
    countOf .triggerUnused quality.issues = quality.unused := by
  obtain ⟨judged, hj, hc⟩ := countOf_issues h
  rw [hc, unused_eq h, ← hj, List.countP_map]
  rfl

/-- The triggers that fire on every page are counted by their issues. -/
theorem countOf_triggerAllPages_issues (h : ofContainer container referenced = .ok quality) :
    countOf .triggerAllPages quality.issues = quality.onAllPages := by
  obtain ⟨blockings, judged, -, rfl⟩ := exists_of_ofContainer_eq_ok h
  exact countOf_flatMap_eq_countP _ fun (trigger, onAllPages) _ =>
    countOf_issuesOfTrigger _ container referenced _ blockings trigger onAllPages

/-- The badly timed triggers are counted by their issues. -/
theorem countOf_triggerTiming_issues (h : ofContainer container referenced = .ok quality) :
    countOf .triggerTiming quality.issues = quality.badlyTimed := by
  obtain ⟨judged, hj, hc⟩ := countOf_issues h
  have htimed : quality.badlyTimed = container.triggers.countP (isBadlyTimed container) := by
    obtain ⟨blockings, judged, -, rfl⟩ := exists_of_ofContainer_eq_ok h
    rfl
  rw [hc, htimed, ← hj, List.countP_map]
  rfl

/-- There are as many issues of duplicates as triggers that are taken for one. -/
theorem countOf_triggerDuplicate_issues (h : ofContainer container referenced = .ok quality) :
    countOf .triggerDuplicate quality.issues =
      container.triggers.countP fun trigger =>
        (firstOf? quality.duplicates trigger.id).isSome := by
  obtain ⟨judged, hj, hc⟩ := countOf_issues h
  rw [hc, ← hj, List.countP_map]
  rfl

/-- There are as many issues of wrong blockings as triggers with an identifier that blocks so. -/
theorem countOf_triggerBlocking_issues (h : ofContainer container referenced = .ok quality) :
    countOf .triggerBlocking quality.issues =
      container.triggers.countP fun trigger =>
        decide (trigger.id ∈ quality.blockings.map (·.triggerId)) := by
  obtain ⟨judged, hj, hc⟩ := countOf_issues h
  rw [hc, ← hj, List.countP_map]
  refine List.countP_congr fun judged _ => ?_
  simp [breaks]

/-- The problems of triggers other than unused ones, counted by category. -/
theorem countP_ne_triggerUnused (h : ofContainer container referenced = .ok quality) :
    quality.issues.countP (·.category != .triggerUnused) =
      countOf .triggerAllPages quality.issues + countOf .triggerTiming quality.issues +
        countOf .triggerDuplicate quality.issues + countOf .triggerBlocking quality.issues := by
  have hf : ∀ issue ∈ quality.issues, issue.category.finder = .triggerQuality :=
    fun _ hi => finder_of_mem_issues h hi
  generalize quality.issues = issues at hf
  induction issues with
  | nil => rfl
  | cons issue rest ih =>
    have hfirst := hf issue (List.mem_cons_self ..)
    have hrest := ih fun i hi => hf i (List.mem_cons_of_mem _ hi)
    simp only [countOf, List.countP_cons] at hrest ⊢
    cases hcat : issue.category <;> simp [hcat, Category.finder] at hfirst ⊢ <;> omega

end OfContainer

end TriggerQuality

end TagAudit
