import TagAudit.Proofs.Audit.Robustness
import TagAudit.Proofs.Usage.Queries

/-!
# References in an audit

The usage graph of a container answers exactly what the container holds, so the triggers that are
found unused are those that nothing refers to.
-/

namespace TagAudit

namespace TriggerQuality

variable {container : Container} {referenced : List String} {quality : TriggerQuality}

/-- The unused issue of a trigger is there unless the trigger is referenced. -/
private theorem filter_issuesOfTrigger (duplicates : List (String × String))
    (blockings : List Blocking) (trigger : Trigger) (onAllPages : Bool) :
    (issuesOfTrigger container referenced duplicates blockings trigger onAllPages).filter
        (·.category == .triggerUnused) =
      if referenced.contains trigger.id then [] else [unusedIssue trigger] := by
  have hduplicate : ((firstOf? duplicates trigger.id).map (duplicateIssue trigger)).toList.filter
      (·.category == .triggerUnused) = [] := by
    cases firstOf? duplicates trigger.id <;> rfl
  simp only [issuesOfTrigger, List.filter_append, hduplicate, apply_ite (List.filter _)]
  simp [allPagesIssue, timingIssue, unusedIssue, blockingIssue, triggerIssue]

/-- The issues for unused triggers are those of the triggers that are not referenced, in order. -/
theorem filter_triggerUnused_issues (h : ofContainer container referenced = .ok quality) :
    quality.issues.filter (·.category == .triggerUnused) =
      (container.triggers.filter fun trigger => trigger.id ∉ referenced).map unusedIssue := by
  obtain ⟨blockings, judged, hj, rfl⟩ := exists_of_ofContainer_eq_ok h
  rw [← Failure.map_eq_of_mapM hj fun _ _ => Trigger.fst_eq_of_judge, List.filter_map,
    List.map_map]
  refine (Issue.filter_flatMap_eq_map _ fun judged =>
    filter_issuesOfTrigger _ _ judged.1 judged.2).trans ?_
  simp [Function.comp_def]

/-- Triggers whose conditions can be read are judged. -/
theorem exists_ofContainer_eq_ok
    (h : ∀ trigger ∈ container.triggers, Condition.areReadable trigger.conditions = true) :
    ∃ quality, ofContainer container referenced = .ok quality := by
  have hok : (ofContainer container referenced).isOk = true := by
    rw [isOk_ofContainer, Bool.and_eq_true]
    constructor
    · refine List.all_eq_true.mpr fun tag _ => List.all_eq_true.mpr fun id _ => ?_
      unfold isBlockingReadable
      cases ht : container.trigger? id with
      | none => simp
      | some trigger =>
        have hmem : trigger ∈ container.triggers :=
          List.mem_reverse.mp (List.mem_of_find?_eq_some ht)
        simp [h trigger hmem]
    · exact List.all_eq_true.mpr fun trigger ht => by simp [h trigger ht]
  cases hq : ofContainer container referenced with
  | error fault => rw [hq] at hok; cases hok
  | ok quality => exact ⟨quality, rfl⟩

end TriggerQuality

namespace UsageGraph

/-- A graph that answers exactly what refers to what in a container. -/
structure Exact (container : Container) (depth : Nat) (graph : UsageGraph) : Prop where
  /-- Nodes are told apart by their texts. -/
  nodeKeys : Function.Injective UsageNode.key
  nodup_referrers : ∀ name, (graph.referrers name).Nodup
  /-- The referrers of a name are the entities in which it is found. -/
  mem_referrers : ∀ name kind id, (kind, id) ∈ graph.referrers name ↔
    ∃ entity ∈ entitiesOf container kind, entity.1 = id ∧
      name ∈ Placeholder.collect depth entity.2.2
  nodup_tagsUsingTrigger : ∀ id label, (graph.tagsUsingTrigger id label).Nodup
  mem_firing : ∀ id tagId, tagId ∈ graph.tagsUsingTrigger id "firing" ↔
    ∃ tag ∈ container.tags, tag.id = tagId ∧ id ∈ tag.firingTriggerIds
  mem_blocking : ∀ id tagId, tagId ∈ graph.tagsUsingTrigger id "blocking" ↔
    ∃ tag ∈ container.tags, tag.id = tagId ∧ id ∈ tag.blockingTriggerIds
  /-- References of trigger groups, or any others, are no uses by tags. -/
  otherUses : ∀ id label, label ≠ "firing" → label ≠ "blocking" →
    graph.tagsUsingTrigger id label = []
  nodup_referencedTriggerIds : graph.referencedTriggerIds.Nodup
  /-- The referenced triggers are those that a tag lists or a trigger group has as members. -/
  mem_referencedTriggerIds : ∀ id, id ∈ graph.referencedTriggerIds ↔
    (∃ tag ∈ container.tags, id ∈ tag.firingTriggerIds ∨ id ∈ tag.blockingTriggerIds) ∨
      ∃ trigger ∈ container.triggers, trigger.family = "TRIGGER_GROUP" ∧ id ∈ trigger.memberIds
  /-- Triggers whose conditions can be read are judged. -/
  judged : (∀ trigger ∈ container.triggers,
      Condition.areReadable trigger.conditions = true) →
    ∃ quality, TriggerQuality.ofContainer container graph.referencedTriggerIds = .ok quality
  /-- The triggers that are found unused are those that nothing refers to. -/
  unused : ∀ quality,
    TriggerQuality.ofContainer container graph.referencedTriggerIds = .ok quality →
    quality.issues.filter (·.category == .triggerUnused) =
      (container.triggers.filter fun trigger => ¬ RefersToTrigger container trigger.id).map
        TriggerQuality.unusedIssue
  /-- Every edge starts at an entity. -/
  sources : ∀ edge ∈ graph.edges, ∃ kind, ∃ entity ∈ entitiesOf container kind,
    edge.source = .entity kind entity.1
  nodup_kinds : ∀ edge ∈ graph.edges, edge.kinds.Nodup
  kinds_ne_nil : ∀ edge ∈ graph.edges, edge.kinds ≠ []

/-- The graph of a container is exact, whatever identifiers and names the container holds and
however often. -/
theorem exact_ofContainer (container : Container) (depth : Nat) :
    (ofContainer container depth).Exact container depth where
  nodeKeys := UsageNode.key_injective
  nodup_referrers := (holds_ofContainer container depth).nodup_referrers
  mem_referrers _ _ _ := mem_referrers_ofContainer
  nodup_tagsUsingTrigger := (holds_ofContainer container depth).nodup_tagsUsingTrigger
  mem_firing _ _ := mem_tagsUsingTrigger_firing
  mem_blocking _ _ := mem_tagsUsingTrigger_blocking
  otherUses _ _ := tagsUsingTrigger_eq_nil
  nodup_referencedTriggerIds := nodup_eraseDups _
  mem_referencedTriggerIds _ := mem_referencedTriggerIds_ofContainer
  judged := TriggerQuality.exists_ofContainer_eq_ok
  unused quality h := by
    rw [TriggerQuality.filter_triggerUnused_issues h]
    simp only [mem_referencedTriggerIds_ofContainer]
  sources _ := exists_source_of_mem_edges
  nodup_kinds := (holds_ofContainer container depth).nodup_kinds
  kinds_ne_nil := (holds_ofContainer container depth).kinds_ne_nil

end UsageGraph

end TagAudit
