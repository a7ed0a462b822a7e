import TagAudit.Proofs.Distinct
import TagAudit.Proofs.Usage.References
import TagAudit.Usage.Unresolved

/-!
# Queries to a usage graph

What a usage graph answers is what the entities of its container refer to. Nodes that entities and
names have are told apart by their texts, whatever characters identifiers and names are made of.
-/

namespace TagAudit

/-- Nodes with one text are the same. -/
theorem UsageNode.key_injective : Function.Injective UsageNode.key := by
  intro a b h
  have hchars := congrArg String.toList h
  rcases a with ⟨_ | _ | _, id⟩ | text <;> rcases b with ⟨_ | _ | _, other⟩ | other <;>
    simp [key, EntityKind.name, toString, String.toList_inj] at hchars
  all_goals rw [hchars]

namespace UsageGraph

/-- What refers to what in a container. -/
inductive Refers (container : Container) (depth : Nat) : UsageReference → Prop
  | placeholder {kind : EntityKind} {entity : String × String × Json} {name : String}
      (source : entity ∈ entitiesOf container kind)
      (found : name ∈ Placeholder.collect depth entity.2.2) :
      Refers container depth ⟨.entity kind entity.1, .name name, .placeholder⟩
  | firing {tag : Tag} {id : String} (source : tag ∈ container.tags)
      (listed : id ∈ tag.firingTriggerIds) :
      Refers container depth ⟨.entity .tag tag.id, .entity .trigger id, .firing⟩
  | blocking {tag : Tag} {id : String} (source : tag ∈ container.tags)
      (listed : id ∈ tag.blockingTriggerIds) :
      Refers container depth ⟨.entity .tag tag.id, .entity .trigger id, .blocking⟩
  | group {trigger : Trigger} {id : String} (source : trigger ∈ container.triggers)
      (listed : id ∈ trigger.memberIds) :
      Refers container depth ⟨.entity .trigger trigger.id, .entity .trigger id, .group⟩

variable {container : Container} {depth : Nat}

/-- The references of a container are all that there is in it. -/
theorem mem_referencesOf_iff {reference : UsageReference} :
    reference ∈ referencesOf container depth ↔ Refers container depth reference := by
  constructor
  · intro h
    rcases List.mem_append.mp h with h | h
    · obtain ⟨kind, -, h⟩ := List.mem_flatMap.mp h
      obtain ⟨entity, he, h⟩ := List.mem_flatMap.mp h
      obtain ⟨name, hn, rfl⟩ := List.mem_map.mp h
      exact .placeholder he (Placeholder.mem_sortedOnce.mp hn)
    · obtain ⟨named, hnamed, rfl⟩ := List.mem_map.mp h
      rcases List.mem_append.mp hnamed with h | h
      · obtain ⟨tag, ht, h⟩ := List.mem_flatMap.mp h
        rcases List.mem_append.mp h with h | h <;> obtain ⟨id, hid, rfl⟩ := List.mem_map.mp h
        · exact .firing ht hid
        · exact .blocking ht hid
      · obtain ⟨trigger, ht, h⟩ := List.mem_flatMap.mp h
        obtain ⟨id, hid, rfl⟩ := List.mem_map.mp h
        exact .group ht hid
  · intro h
    cases h with
    | @placeholder kind entity name he hn =>
      refine List.mem_append_left _ (List.mem_flatMap.mpr ⟨kind, ?_, ?_⟩)
      · cases kind <;> simp [searchOrder]
      · refine List.mem_flatMap.mpr ⟨entity, he, List.mem_map.mpr ⟨name, ?_, rfl⟩⟩
        exact Placeholder.mem_sortedOnce.mpr hn
    | @firing tag id ht hid =>
      refine List.mem_append_right _ (List.mem_map.mpr ⟨(.entity .tag tag.id, .firing, id), ?_, rfl⟩)
      refine List.mem_append_left _ (List.mem_flatMap.mpr ⟨tag, ht, ?_⟩)
      exact List.mem_append_left _ (List.mem_map_of_mem hid)
    | @blocking tag id ht hid =>
      refine List.mem_append_right _
        (List.mem_map.mpr ⟨(.entity .tag tag.id, .blocking, id), ?_, rfl⟩)
      refine List.mem_append_left _ (List.mem_flatMap.mpr ⟨tag, ht, ?_⟩)
      exact List.mem_append_right _ (List.mem_map_of_mem hid)
    | @group trigger id ht hid =>
      refine List.mem_append_right _
        (List.mem_map.mpr ⟨(.entity .trigger trigger.id, .group, id), ?_, rfl⟩)
      exact List.mem_append_right _ (List.mem_flatMap.mpr ⟨trigger, ht, List.mem_map_of_mem hid⟩)

/-- The source of a reference is an entity of the container. -/
theorem Refers.exists_source {reference : UsageReference} (h : Refers container depth reference) :
    ∃ kind, ∃ entity ∈ entitiesOf container kind, reference.source = .entity kind entity.1 := by
  cases h with
  | placeholder he _ => exact ⟨_, _, he, rfl⟩
  | firing ht _ => exact ⟨.tag, _, List.mem_map_of_mem ht, rfl⟩
  | blocking ht _ => exact ⟨.tag, _, List.mem_map_of_mem ht, rfl⟩
  | group ht _ => exact ⟨.trigger, _, List.mem_map_of_mem ht, rfl⟩

section Holds

variable {graph : UsageGraph} {references : List UsageReference}

/-- An edge leads from a node to another exactly if there is a reference between them. -/
theorem Holds.exists_edge_iff (h : graph.Holds references) {source target : UsageNode} :
    (∃ edge ∈ graph.edges, edge.source = source ∧ edge.target = target) ↔
      ∃ kind, ⟨source, target, kind⟩ ∈ references := by
  simp only [← h.carries, Carries]
  constructor
  · rintro ⟨edge, he, hs, ht⟩
    obtain ⟨kind, hk⟩ := List.exists_mem_of_ne_nil _ (h.kinds_ne_nil edge he)
    exact ⟨kind, edge, he, hs, ht, hk⟩
  · rintro ⟨kind, edge, he, hs, ht, -⟩
    exact ⟨edge, he, hs, ht⟩

/-- What is read off the edges to a node has no duplicates if it tells their sources. -/
theorem Holds.nodup_filterMap_edgesTo {α : Type} (h : graph.Holds references) (node : UsageNode)
    {read : UsageEdge → Option α} (source : α → UsageNode)
    (hread : ∀ edge x, read edge = some x → edge.source = source x) :
    ((graph.edgesTo node).filterMap read).Nodup := by
  have hends : graph.edges.Pairwise fun a b => (a.source, a.target) ≠ (b.source, b.target) :=
    List.pairwise_map.mp h.nodup_ends
  refine List.pairwise_filterMap.mpr ?_
  -- one edge leads from a node to another, so edges to one node have different sources
  refine (hends.sublist List.filter_sublist).imp_of_mem fun ha hb hne x hx y hy hxy => hne ?_
  have hta := eq_of_beq (List.mem_filter.mp ha).2
  have htb := eq_of_beq (List.mem_filter.mp hb).2
  rw [hread _ x hx, hread _ y hy, hxy, hta, htb]

/-- Each entity refers to a name once. -/
theorem Holds.nodup_referrers (h : graph.Holds references) (name : String) :
    (graph.referrers name).Nodup := by
  refine h.nodup_filterMap_edgesTo _ (fun entity => .entity entity.1 entity.2) fun edge x hx => ?_
  split at hx
  · cases hx
    assumption
  · cases hx

/-- The referrers of a name are the entities with references to it. -/
theorem Holds.mem_referrers_iff (h : graph.Holds references) {name : String} {kind : EntityKind}
    {id : String} : (kind, id) ∈ graph.referrers name ↔
      ∃ way, ⟨.entity kind id, .name name, way⟩ ∈ references := by
  rw [← h.exists_edge_iff]
  simp only [referrers, edgesTo, List.mem_filterMap, List.mem_filter, beq_iff_eq]
  constructor
  · rintro ⟨edge, ⟨he, ht⟩, hx⟩
    split at hx
    · cases hx
      exact ⟨edge, he, ‹_›, ht⟩
    · cases hx
  · rintro ⟨edge, he, hs, ht⟩
    exact ⟨edge, ⟨he, ht⟩, by rw [hs]⟩

/-- Each tag uses a trigger once in a way. -/
theorem Holds.nodup_tagsUsingTrigger (h : graph.Holds references) (id label : String) :
    (graph.tagsUsingTrigger id label).Nodup := by
  refine h.nodup_filterMap_edgesTo _ (.entity .tag) fun edge x hx => ?_
  split at hx
  · split at hx
    · cases hx
      assumption
    · cases hx
  · cases hx

/-- The tags that use a trigger are those with references to it in a way of that name. -/
theorem Holds.mem_tagsUsingTrigger_iff (h : graph.Holds references) {id label tagId : String} :
    tagId ∈ graph.tagsUsingTrigger id label ↔ ∃ way : ReferenceKind, way.label = label ∧
      ⟨.entity .tag tagId, .entity .trigger id, way⟩ ∈ references := by
  simp only [← h.carries, Carries, tagsUsingTrigger, edgesTo, List.mem_filterMap,
    List.mem_filter, beq_iff_eq]
  constructor
  · rintro ⟨edge, ⟨he, ht⟩, hx⟩
    split at hx
    · split at hx
      · rename_i hs hk
        obtain ⟨way, hw, hl⟩ := List.any_eq_true.mp hk
        cases hx
        exact ⟨way, eq_of_beq hl, edge, he, hs, ht, hw⟩
      · cases hx
    · cases hx
  · rintro ⟨way, rfl, edge, he, hs, ht, hw⟩
    have hk : (edge.kinds.any (·.label == way.label)) = true :=
      List.any_eq_true.mpr ⟨way, hw, beq_self_eq_true _⟩
    exact ⟨edge, ⟨he, ht⟩, by simp only [hs, hk, if_true]⟩

end Holds

section OfContainer

/-- A container refers to a trigger where a tag lists it or a trigger group has it as a member. -/
def RefersToTrigger (container : Container) (id : String) : Prop :=
  (∃ tag ∈ container.tags, id ∈ tag.firingTriggerIds ∨ id ∈ tag.blockingTriggerIds) ∨
    ∃ trigger ∈ container.triggers, trigger.family = "TRIGGER_GROUP" ∧ id ∈ trigger.memberIds

instance (container : Container) (id : String) : Decidable (RefersToTrigger container id) :=
  inferInstanceAs (Decidable (_ ∨ _))

/-- Only a trigger group has members. -/
theorem family_eq_of_mem_memberIds {trigger : Trigger} {id : String}
    (h : id ∈ trigger.memberIds) : trigger.family = "TRIGGER_GROUP" := by
  unfold Trigger.memberIds at h
  split at h
  · assumption
  · cases h

/-- The referrers of a name are the entities in which it is found. -/
theorem mem_referrers_ofContainer {name : String} {kind : EntityKind} {id : String} :
    (kind, id) ∈ (ofContainer container depth).referrers name ↔
      ∃ entity ∈ entitiesOf container kind, entity.1 = id ∧
        name ∈ Placeholder.collect depth entity.2.2 := by
  rw [(holds_ofContainer container depth).mem_referrers_iff]
  simp only [mem_referencesOf_iff]
  constructor
  · rintro ⟨way, ⟨he, hn⟩⟩
    exact ⟨_, he, rfl, hn⟩
  · rintro ⟨entity, he, rfl, hn⟩
    exact ⟨.placeholder, .placeholder he hn⟩

/-- The tags that fire on a trigger are those that list it as a firing one. -/
theorem mem_tagsUsingTrigger_firing {id tagId : String} :
    tagId ∈ (ofContainer container depth).tagsUsingTrigger id "firing" ↔
      ∃ tag ∈ container.tags, tag.id = tagId ∧ id ∈ tag.firingTriggerIds := by
  rw [(holds_ofContainer container depth).mem_tagsUsingTrigger_iff]
  simp only [mem_referencesOf_iff]
  constructor
  · rintro ⟨way, hw, hr⟩
    cases hr with
    | firing ht hid => exact ⟨_, ht, rfl, hid⟩
    | blocking ht hid => exact absurd hw (by decide)
  · rintro ⟨tag, ht, rfl, hid⟩
    exact ⟨.firing, rfl, .firing ht hid⟩

/-- The tags that a trigger blocks are those that list it as a blocking one. -/
theorem mem_tagsUsingTrigger_blocking {id tagId : String} :
    tagId ∈ (ofContainer container depth).tagsUsingTrigger id "blocking" ↔
      ∃ tag ∈ container.tags, tag.id = tagId ∧ id ∈ tag.blockingTriggerIds := by
  rw [(holds_ofContainer container depth).mem_tagsUsingTrigger_iff]
  simp only [mem_referencesOf_iff]
  constructor
  · rintro ⟨way, hw, hr⟩
    cases hr with
    | firing ht hid => exact absurd hw (by decide)
    | blocking ht hid => exact ⟨_, ht, rfl, hid⟩
  · rintro ⟨tag, ht, rfl, hid⟩
    exact ⟨.blocking, rfl, .blocking ht hid⟩

/-- In any other way no tag uses a trigger. -/
theorem tagsUsingTrigger_eq_nil {id label : String} (hf : label ≠ "firing")
    (hb : label ≠ "blocking") : (ofContainer container depth).tagsUsingTrigger id label = [] := by
  refine List.eq_nil_iff_forall_not_mem.mpr fun tagId h => ?_
  obtain ⟨way, hw, hr⟩ := (holds_ofContainer container depth).mem_tagsUsingTrigger_iff.mp h
  cases mem_referencesOf_iff.mp hr with
  | firing => exact hf hw.symm
  | blocking => exact hb hw.symm

/-- The referenced triggers are those that the container refers to. -/
theorem mem_referencedTriggerIds_ofContainer {id : String} :
    id ∈ (ofContainer container depth).referencedTriggerIds ↔ RefersToTrigger container id := by
  rw [referencedTriggerIds, List.mem_eraseDups, (holds_ofContainer container depth).mem_triggerIds]
  simp only [mem_referencesOf_iff]
  constructor
  · rintro ⟨reference, hr, ht⟩
    cases hr with
    | placeholder => cases ht
    | firing hs hid =>
      cases ht
      exact Or.inl ⟨_, hs, Or.inl hid⟩
    | blocking hs hid =>
      cases ht
      exact Or.inl ⟨_, hs, Or.inr hid⟩
    | group hs hid =>
      cases ht
      exact Or.inr ⟨_, hs, family_eq_of_mem_memberIds hid, hid⟩
  · rintro (⟨tag, hs, hid | hid⟩ | ⟨trigger, hs, -, hid⟩)
    · exact ⟨_, .firing hs hid, rfl⟩
    · exact ⟨_, .blocking hs hid, rfl⟩
    · exact ⟨_, .group hs hid, rfl⟩

/-- The names that are referred to are those that are found in some entity. -/
theorem exists_target_name_iff {name : String} :
    (∃ reference ∈ referencesOf container depth, reference.target = .name name) ↔
      ∃ kind, ∃ entity ∈ entitiesOf container kind,
        name ∈ Placeholder.collect depth entity.2.2 := by
  simp only [mem_referencesOf_iff]
  constructor
  · rintro ⟨reference, hr, ht⟩
    cases hr with
    | placeholder he hn =>
      cases ht
      exact ⟨_, _, he, hn⟩
    | firing | blocking | group => cases ht
  · rintro ⟨kind, entity, he, hn⟩
    exact ⟨_, .placeholder he hn, rfl⟩

/-- The names with nodes are those that are found in some entity. -/
theorem mem_nodeNames_ofContainer {name : String} :
    name ∈ (ofContainer container depth).nodeNames ↔
      ∃ kind, ∃ entity ∈ entitiesOf container kind,
        name ∈ Placeholder.collect depth entity.2.2 := by
  have hnode : name ∈ (ofContainer container depth).nodeNames ↔
      .name name ∈ keysOf (ofContainer container depth).nodes := by
    simp only [nodeNames, keysOf, List.mem_filterMap, List.mem_map]
    refine exists_congr fun node => and_congr_right fun _ => ?_
    cases node.1 <;> simp
  rw [hnode, (holds_ofContainer container depth).mem_nodes, exists_target_name_iff]

/-- Each name has one node. -/
theorem nodup_nodeNames (container : Container) (depth : Nat) :
    (ofContainer container depth).nodeNames.Nodup := by
  have hnodes := List.pairwise_map.mp (holds_ofContainer container depth).nodup_nodes
  refine List.pairwise_filterMap.mpr (hnodes.imp fun {x y} hne name hx other hy he => hne ?_)
  rcases x with ⟨text | _, _⟩ <;> cases hx
  rcases y with ⟨text' | _, _⟩ <;> cases hy
  exact congrArg UsageNode.name he

/-- The names that count as used are those that are found and the referenced triggers. -/
theorem mem_referencedNames_ofContainer {name : String} :
    name ∈ (ofContainer container depth).referencedNames ↔
      (∃ kind, ∃ entity ∈ entitiesOf container kind,
        name ∈ Placeholder.collect depth entity.2.2) ∨ RefersToTrigger container name := by
  rw [← @mem_referencedTriggerIds_ofContainer container depth, ← exists_target_name_iff,
    ← (holds_ofContainer container depth).mem_placeholderNames, referencedNames,
    referencedTriggerIds, List.mem_eraseDups, List.mem_eraseDups, List.mem_append]

/-- Every edge starts at an entity. -/
theorem exists_source_of_mem_edges {edge : UsageEdge}
    (h : edge ∈ (ofContainer container depth).edges) :
    ∃ kind, ∃ entity ∈ entitiesOf container kind, edge.source = .entity kind entity.1 := by
  have holds := holds_ofContainer container depth
  obtain ⟨kind, hr⟩ := holds.exists_edge_iff.mp ⟨edge, h, rfl, rfl⟩
  exact (mem_referencesOf_iff.mp hr).exists_source

end OfContainer

end UsageGraph

end TagAudit
