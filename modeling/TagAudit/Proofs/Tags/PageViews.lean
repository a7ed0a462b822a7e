import TagAudit.Proofs.Tags.Growth

/-!
# Exactly the doubled page views

A manual tag is flagged exactly if there is a configuration tag that sends page views and the
manual tag fires on a trigger of that one or on a change of history. The flagged tags stand in the
order of the container, the shared triggers are those on which tags of both sorts fire, and the
rules for tags are critical exactly if a page view is doubled.
-/

namespace TagAudit

namespace DoublePageView

variable {container : Container} {tag other : Tag}

/-- A tag fires on a trigger of the container for changes of history. -/
def FiresOnHistory (container : Container) (tag : Tag) : Prop :=
  ∃ trigger ∈ container.triggers, trigger.family = "HISTORY_CHANGE" ∧
    trigger.id ∈ tag.firingTriggerIds

instance (container : Container) (tag : Tag) : Decidable (FiresOnHistory container tag) :=
  inferInstanceAs (Decidable (∃ trigger ∈ container.triggers, _))

/-- A tag sends a page view by hand that a configuration of the container sends too: both fire on
one trigger, or the tag fires on a change of history. -/
def Doubles (container : Container) (tag : Tag) : Prop :=
  tag.sendsManualPageView = true ∧ ∃ other ∈ container.tags, other.configuresPageView = true ∧
    ((∃ id ∈ other.firingTriggerIds, id ∈ tag.firingTriggerIds) ∨ FiresOnHistory container tag)

instance (container : Container) (tag : Tag) : Decidable (Doubles container tag) :=
  inferInstanceAs (Decidable (_ ∧ ∃ other ∈ container.tags, _))

/-- A result that finds the doubled page views of a container and no others. -/
structure IsExact (container : Container) (result : DoublePageView) : Prop where
  /-- The flagged tags, in the order of the container. -/
  flagged : result.flagged = container.tags.filter (Doubles container ·)
  nodup : result.sharedTriggers.Nodup
  shared : ∀ id, id ∈ result.sharedTriggers ↔
    (∃ other ∈ container.tags, other.configuresPageView = true ∧ id ∈ other.firingTriggerIds) ∧
      ∃ tag ∈ container.tags, tag.sendsManualPageView = true ∧ id ∈ tag.firingTriggerIds
  onHistoryChange : result.onHistoryChange = true ↔
    (∃ other ∈ container.tags, other.configuresPageView = true) ∧
      ∃ tag ∈ container.tags, tag.sendsManualPageView = true ∧ FiresOnHistory container tag
  detected : result.detected = true ↔ ∃ tag ∈ container.tags, Doubles container tag
  /-- The identifiers that are listed in the result as a value. -/
  listed : result.toJson.get "flagged_tag_ids" =
    .strings ((container.tags.filter (Doubles container ·)).map (·.id))

section Membership

theorem mem_configuring_iff : tag ∈ (ofContainer container).configuring ↔
    tag ∈ container.tags ∧ tag.configuresPageView = true := List.mem_filter

theorem mem_manual_iff : tag ∈ (ofContainer container).manual ↔
    tag ∈ container.tags ∧ tag.sendsManualPageView = true := List.mem_filter

theorem mem_firingTriggersShared_iff {id : String} : id ∈ other.firingTriggersShared tag ↔
    id ∈ other.firingTriggerIds ∧ id ∈ tag.firingTriggerIds := by
  rw [Tag.firingTriggersShared, List.mem_filter, List.contains_iff_mem]

/-- Tags fire together exactly if they share a trigger. -/
theorem firingTriggersShared_ne_nil_iff : other.firingTriggersShared tag ≠ [] ↔
    ∃ id ∈ other.firingTriggerIds, id ∈ tag.firingTriggerIds := by
  rw [ne_eq, ← List.isEmpty_iff, Bool.not_eq_true, List.isEmpty_eq_false_iff_exists_mem]
  exact exists_congr fun _ => mem_firingTriggersShared_iff

theorem firesOnHistory_iff :
    firesOnHistory container tag = true ↔ FiresOnHistory container tag := by
  rw [firesOnHistory, List.any_eq_true]
  constructor
  · rintro ⟨id, hid, hhistory⟩
    obtain ⟨trigger, htrigger, rfl⟩ := List.mem_map.mp (List.contains_iff_mem.mp hhistory)
    obtain ⟨hmem, hfamily⟩ := List.mem_filter.mp htrigger
    exact ⟨trigger, hmem, beq_iff_eq.mp hfamily, hid⟩
  · rintro ⟨trigger, hmem, hfamily, hid⟩
    refine ⟨trigger.id, hid, List.contains_iff_mem.mpr (List.mem_map_of_mem ?_)⟩
    exact List.mem_filter.mpr ⟨hmem, beq_iff_eq.mpr hfamily⟩

/-- The flagged tags are the tags of the container that double a page view. -/
theorem mem_flagged_iff_doubles : tag ∈ (ofContainer container).flagged ↔
    tag ∈ container.tags ∧ Doubles container tag := by
  simp only [mem_flagged_iff, mem_configuring_iff, firingTriggersShared_ne_nil_iff,
    firesOnHistory_iff, Doubles, and_assoc]

/-- The shared triggers are those on which a configuration and a manual tag fire. -/
theorem mem_sharedTriggers_iff {id : String} : id ∈ (ofContainer container).sharedTriggers ↔
    (∃ other ∈ container.tags, other.configuresPageView = true ∧ id ∈ other.firingTriggerIds) ∧
      ∃ tag ∈ container.tags, tag.sendsManualPageView = true ∧ id ∈ tag.firingTriggerIds := by
  have hshared : (ofContainer container).sharedTriggers =
      ((ofContainer container).manual.flatMap fun tag =>
        (ofContainer container).configuring.flatMap (·.firingTriggersShared tag)).eraseDups := rfl
  rw [hshared, List.mem_eraseDups, List.mem_flatMap]
  constructor
  · rintro ⟨tag, htag, hid⟩
    obtain ⟨other, hother, hid⟩ := List.mem_flatMap.mp hid
    obtain ⟨hfires, hfiresToo⟩ := mem_firingTriggersShared_iff.mp hid
    obtain ⟨hmanual, hsends⟩ := mem_manual_iff.mp htag
    obtain ⟨hmem, hconfigures⟩ := mem_configuring_iff.mp hother
    exact ⟨⟨other, hmem, hconfigures, hfires⟩, tag, hmanual, hsends, hfiresToo⟩
  · rintro ⟨⟨other, hmem, hconfigures, hfires⟩, tag, hmanual, hsends, hfiresToo⟩
    refine ⟨tag, mem_manual_iff.mpr ⟨hmanual, hsends⟩, List.mem_flatMap.mpr ⟨other, ?_, ?_⟩⟩
    · exact mem_configuring_iff.mpr ⟨hmem, hconfigures⟩
    · exact mem_firingTriggersShared_iff.mpr ⟨hfires, hfiresToo⟩

theorem onHistoryChange_iff : (ofContainer container).onHistoryChange = true ↔
    (∃ other ∈ container.tags, other.configuresPageView = true) ∧
      ∃ tag ∈ container.tags, tag.sendsManualPageView = true ∧ FiresOnHistory container tag := by
  have hhistory : (ofContainer container).onHistoryChange =
      (ofContainer container).manual.any fun tag =>
        !(ofContainer container).configuring.isEmpty && firesOnHistory container tag := rfl
  have hsome : (!(ofContainer container).configuring.isEmpty) = true ↔
      ∃ other ∈ container.tags, other.configuresPageView = true := by
    rw [Bool.not_eq_true', List.isEmpty_eq_false_iff_exists_mem]
    exact exists_congr fun _ => mem_configuring_iff
  rw [hhistory, List.any_eq_true]
  constructor
  · rintro ⟨tag, htag, hboth⟩
    obtain ⟨hconfigured, hfires⟩ := (Bool.and_eq_true ..).mp hboth
    obtain ⟨hmem, hsends⟩ := mem_manual_iff.mp htag
    exact ⟨hsome.mp hconfigured, tag, hmem, hsends, firesOnHistory_iff.mp hfires⟩
  · rintro ⟨hconfigured, tag, hmem, hsends, hfires⟩
    refine ⟨tag, mem_manual_iff.mpr ⟨hmem, hsends⟩, (Bool.and_eq_true ..).mpr ?_⟩
    exact ⟨hsome.mpr hconfigured, firesOnHistory_iff.mpr hfires⟩

end Membership

/-- The flagged tags are picked out of the tags of the container, so they keep their order. -/
theorem flagged_eq : (ofContainer container).flagged =
    container.tags.filter (Doubles container ·) := by
  have hfiltered : ∃ p, (ofContainer container).flagged = container.tags.filter p := by
    exact ⟨_, List.filter_filter ..⟩
  obtain ⟨p, hp⟩ := hfiltered
  rw [hp]
  refine List.filter_congr fun tag htag => ?_
  have hmem : p tag = true ↔ Doubles container tag := by
    have hflagged : tag ∈ (ofContainer container).flagged ↔
        tag ∈ container.tags ∧ Doubles container tag := mem_flagged_iff_doubles
    rw [hp, List.mem_filter] at hflagged
    simpa only [htag, true_and] using hflagged
  rw [Bool.eq_iff_iff, hmem, decide_eq_true_iff]

theorem isExact_ofContainer (container : Container) :
    IsExact container (ofContainer container) := by
  have hdetected : (ofContainer container).detected = true ↔
      ∃ tag ∈ container.tags, Doubles container tag := by
    rw [detected, Bool.not_eq_true', List.isEmpty_eq_false_iff_exists_mem]
    exact exists_congr fun _ => mem_flagged_iff_doubles
  have hlisted : (ofContainer container).toJson.get "flagged_tag_ids" =
      .strings ((ofContainer container).flagged.map (·.id)) := rfl
  rw [flagged_eq] at hlisted
  exact {
    flagged := flagged_eq
    nodup := nodup_eraseDups _
    shared := fun _ => mem_sharedTriggers_iff
    onHistoryChange := onHistoryChange_iff
    detected := hdetected
    listed := hlisted }

end DoublePageView

namespace TagRules

/-- The rules for tags are critical exactly if a page view is doubled. -/
theorem status_eq_critical_iff (rules : TagRules) :
    rules.status = some .critical ↔ rules.doublePageView.detected = true := by
  unfold status
  split
  next hdetected => simp [hdetected]
  next hdetected =>
    refine iff_of_false ?_ hdetected
    split
    · simp
    · split <;> simp

/-- Exactly the doubled page views of a container are found, and they alone are critical. -/
theorem detects_doubledPageViews (config : Config) (container : Container) :
    DoublePageView.IsExact container (DoublePageView.ofContainer container) ∧
      ((ofContainer config container).message.status = some .critical ↔
        (DoublePageView.ofContainer container).detected = true) :=
  ⟨DoublePageView.isExact_ofContainer container, status_eq_critical_iff _⟩

end TagRules

end TagAudit
