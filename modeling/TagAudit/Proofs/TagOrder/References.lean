import TagAudit.Proofs.TagOrder.Tags
import TagAudit.Proofs.Triggers.Issues
import TagAudit.Proofs.Usage.Queries
import TagAudit.Proofs.Variables.Issues

/-!
# References of tags in another order

Tags in another order refer to the same names and triggers, so the same triggers and variables are
unused, the same triggers fire and block the same tags, and the same placeholders stand for nothing.
-/

namespace TagAudit

/-- Qualities of the same triggers, with tags in another order. -/
structure TriggerQuality.Alike (a b : TriggerQuality) : Prop where
  total : a.total = b.total
  unused : a.unused = b.unused
  onAllPages : a.onAllPages = b.onAllPages
  badlyTimed : a.badlyTimed = b.badlyTimed
  duplicateGroups : a.duplicateGroups = b.duplicateGroups
  duplicates : a.duplicates = b.duplicates
  blockings : a.blockings.Perm b.blockings
  blockingMarketing : a.blockingMarketing = b.blockingMarketing
  historyChange : a.historyChange = b.historyChange
  issues : a.issues.map Issue.summary = b.issues.map Issue.summary

variable {config : Config} {container : Container} {tags : List Tag}

section Reordered

variable (h : container.tags.Perm tags)

include h

namespace UsageGraph

/-- The same entities are searched. -/
theorem mem_entitiesOf_withTags (kind : EntityKind) (entity : String × String × Json) :
    entity ∈ entitiesOf container kind ↔ entity ∈ entitiesOf (container.withTags tags) kind := by
  cases kind with
  | tag => exact (h.map _).mem_iff
  | trigger | «variable» => exact Iff.rfl

/-- The same triggers are referred to. -/
theorem refersToTrigger_withTags (id : String) :
    RefersToTrigger container id ↔ RefersToTrigger (container.withTags tags) id := by
  simp only [RefersToTrigger, Container.tags_withTags, Container.triggers_withTags, h.mem_iff]

section Graph

variable (depth : Nat)

theorem mem_referencedTriggerIds_withTags (id : String) :
    id ∈ (ofContainer container depth).referencedTriggerIds ↔
      id ∈ (ofContainer (container.withTags tags) depth).referencedTriggerIds := by
  rw [mem_referencedTriggerIds_ofContainer, mem_referencedTriggerIds_ofContainer,
    refersToTrigger_withTags h]

theorem mem_referencedNames_withTags (name : String) :
    name ∈ (ofContainer container depth).referencedNames ↔
      name ∈ (ofContainer (container.withTags tags) depth).referencedNames := by
  simp only [mem_referencedNames_ofContainer, refersToTrigger_withTags h,
    mem_entitiesOf_withTags h]

/-- The same entities refer to a name. -/
theorem referrers_perm (name : String) : ((ofContainer container depth).referrers name).Perm
    ((ofContainer (container.withTags tags) depth).referrers name) := by
  have hgraph := holds_ofContainer container depth
  have hother := holds_ofContainer (container.withTags tags) depth
  refine (List.perm_ext_iff_of_nodup (hgraph.nodup_referrers name)
    (hother.nodup_referrers name)).mpr ?_
  rintro ⟨kind, id⟩
  simp only [mem_referrers_ofContainer, mem_entitiesOf_withTags h]

/-- The names are the same in their order. -/
theorem sorted_nodeNames_withTags :
    ((ofContainer container depth).nodeNames.mergeSort fun a b => a ≤ b) =
      (ofContainer (container.withTags tags) depth).nodeNames.mergeSort fun a b => a ≤ b := by
  refine mergeSort_eq_of_perm id (fun _ _ _ _ he => he) ?_
  refine (List.perm_ext_iff_of_nodup (nodup_nodeNames _ _) (nodup_nodeNames _ _)).mpr fun name => ?_
  simp only [mem_nodeNames_ofContainer, mem_entitiesOf_withTags h]

/-- The same placeholders stand for nothing. -/
theorem unresolvedIssues_alike :
    Issue.Alike (unresolvedIssues container (ofContainer container depth))
      (unresolvedIssues (container.withTags tags)
        (ofContainer (container.withTags tags) depth)) := by
  rw [unresolvedIssues, unresolvedIssues, Issue.Alike, sorted_nodeNames_withTags h,
    List.map_flatMap, List.map_flatMap]
  refine List.Perm.flatMap_left _ fun name _ => ?_
  rw [List.map_map, List.map_map]
  exact (referrers_perm h depth name).map _

end Graph

end UsageGraph

namespace TriggerQuality

theorem tagsFiredBy_perm (id : String) :
    (tagsFiredBy container id).Perm (tagsFiredBy (container.withTags tags) id) :=
  h.flatMap_right _

theorem isBadlyTimed_withTags (trigger : Trigger) :
    isBadlyTimed container trigger = isBadlyTimed (container.withTags tags) trigger := by
  have hfired := tagsFiredBy_perm h trigger.id
  simp only [isBadlyTimed, timing, hfired.any_eq]

theorem reviewedTags_perm :
    (reviewedTags container).Perm (reviewedTags (container.withTags tags)) := h.filter _

theorem wrongBlockings_rel : Option.Rel List.Perm (wrongBlockings container).toOption
    (wrongBlockings (container.withTags tags)).toOption := by
  rw [wrongBlockings, wrongBlockings, Failure.toOption_map, Failure.toOption_map]
  have hblockings := Failure.rel_mapM_of_perm (blockingsOfTag container) (reviewedTags_perm h)
  exact Failure.rel_map hblockings fun _ _ hperm => hperm.flatten

variable {referenced others : List String} (hr : ∀ id, id ∈ referenced ↔ id ∈ others)

include hr

/-- A trigger has the same issues. -/
private theorem map_summary_issuesOfTrigger (duplicates : List (String × String))
    {blockings wrongs : List Blocking} (hb : blockings.Perm wrongs) (trigger : Trigger)
    (onAllPages : Bool) :
    (issuesOfTrigger container referenced duplicates blockings trigger onAllPages).map
        Issue.summary =
      (issuesOfTrigger (container.withTags tags) others duplicates wrongs trigger
        onAllPages).map Issue.summary := by
  have hcontains : referenced.contains trigger.id = others.contains trigger.id := by
    simp only [List.contains_eq_mem, hr]
  have hwrong := (hb.filter (·.triggerId == trigger.id)).isEmpty_eq
  have hused := (((tagsFiredBy_perm h trigger.id).filter (!·.isCore)).map (·.id)).isEmpty_eq
  simp only [issuesOfTrigger, List.map_append, apply_ite (List.map _),
    isBadlyTimed_withTags h, hcontains, hwrong, allPagesIssue, hused]
  rfl

/-- The quality of judged triggers is the same. -/
private theorem alike_ofJudged {blockings wrongs : List Blocking} (hb : blockings.Perm wrongs)
    (judged : List (Trigger × Bool)) : Alike (ofJudged container referenced blockings judged)
      (ofJudged (container.withTags tags) others wrongs judged) where
  total := rfl
  unused := List.countP_congr fun trigger _ => by simp only [List.contains_eq_mem, hr]
  onAllPages := rfl
  badlyTimed := List.countP_congr fun trigger _ => by rw [isBadlyTimed_withTags h]
  duplicateGroups := rfl
  duplicates := rfl
  blockings := hb
  blockingMarketing := by
    have hids := (reviewedTags_perm h).flatMap_right (·.blockingTriggerIds)
    exact (eraseDups_perm_of_mem_iff fun id => hids.mem_iff).length_eq
  historyChange := rfl
  issues := by
    simp only [ofJudged, List.map_flatMap]
    congr 1
    funext judgment
    exact map_summary_issuesOfTrigger h hr _ hb judgment.1 judgment.2

/-- The quality of triggers is the same. -/
theorem alike_withTags : Option.Rel Alike (ofContainer container referenced).toOption
    (ofContainer (container.withTags tags) others).toOption := by
  simp only [ofContainer_eq, Failure.toOption_bind, Failure.toOption_map]
  refine Failure.rel_bind (wrongBlockings_rel h) fun blockings wrongs hb => ?_
  exact Failure.rel_map_self (alike_ofJudged h hr hb) _

end TriggerQuality

end Reordered

/-- The quality of variables does not look at tags but through the names that are referred to. -/
theorem VariableQuality.ofContainer_withTags {names others : List String}
    (hr : ∀ name, name ∈ names ↔ name ∈ others) :
    ofContainer config container names = ofContainer config (container.withTags tags) others := by
  have hcontains : ∀ name, names.contains name = others.contains name := by
    intro name
    simp only [List.contains_eq_mem, hr]
  rw [ofContainer_eq, ofContainer_eq]
  congr 1
  funext judged
  simp only [ofJudged, issuesOfVariable, hcontains, Container.userVariables_withTags]

namespace TriggerQuality.Alike

variable {a b : TriggerQuality} (h : a.Alike b)

include h

theorem wrongBlockers : a.wrongBlockers = b.wrongBlockers := by
  have hids := h.blockings.map (·.triggerId)
  exact (eraseDups_perm_of_mem_iff fun id => hids.mem_iff).length_eq

theorem duplicateTotal : a.duplicateTotal = b.duplicateTotal := by
  rw [TriggerQuality.duplicateTotal, TriggerQuality.duplicateTotal, h.duplicates]

theorem aspectScore {α : Type} [Scalar α] (config : Config) (aspect : TriggerAspect) :
    (a.aspectScore config aspect : α) = b.aspectScore config aspect := by
  cases aspect <;>
    simp only [TriggerQuality.aspectScore, h.total, h.onAllPages, h.wrongBlockers, h.badlyTimed,
      h.historyChange, h.unused, h.duplicateTotal]

theorem score {α : Type} [Scalar α] (config : Config) :
    (a.score config : α) = b.score config := by
  simp only [TriggerQuality.score, h.aspectScore]

theorem aspectJson (config : Config) (aspect : TriggerAspect) :
    a.aspectJson config aspect = b.aspectJson config aspect := by
  rw [TriggerQuality.aspectJson, TriggerQuality.aspectJson, h.aspectScore, h.total,
    h.historyChange]

theorem message (config : Config) : a.message config = b.message config := by
  simp only [TriggerQuality.message, h.score, h.total, h.onAllPages, h.unused, h.duplicateTotal]

end TriggerQuality.Alike

end TagAudit
