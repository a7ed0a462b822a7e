import TagAudit.Proofs.Score.Percentage
import TagAudit.Proofs.TagOrder.Export

/-!
# One more tag

A tag at the end of an export is read after all others and leaves them as they are. It can be the
configuration that a manual page view doubles, be such a page view itself, or carry the identifier
of another tag; but each of these only adds issues. No tag is clean beside it that was not clean
without it, and unless it is clean itself the share of clean tags does not grow.
-/

namespace TagAudit

open Exact

namespace DoublePageView

variable {container : Container} {tags : List Tag}

/-- More tags configure more page views. -/
theorem configuring_subset_withTags (h : container.tags ⊆ tags) :
    (ofContainer container).configuring ⊆ (ofContainer (container.withTags tags)).configuring := by
  intro tag htag
  obtain ⟨hmem, hconfigures⟩ := List.mem_filter.mp htag
  exact List.mem_filter.mpr ⟨h hmem, hconfigures⟩

/-- A tag that doubles a page view is a manual one that fires with a configuration, or on a change
of history while there is a configuration. -/
theorem mem_flagged_iff {tag : Tag} : tag ∈ (ofContainer container).flagged ↔
    tag ∈ container.tags ∧ tag.sendsManualPageView = true ∧
      ∃ other ∈ (ofContainer container).configuring,
        other.firingTriggersShared tag ≠ [] ∨ firesOnHistory container tag = true := by
  have hconfiguring : (ofContainer container).configuring =
      container.tags.filter Tag.configuresPageView := rfl
  have hflagged : (ofContainer container).flagged =
      (container.tags.filter Tag.sendsManualPageView).filter fun tag =>
        (ofContainer container).configuring.any
            (fun other => !(other.firingTriggersShared tag).isEmpty) ||
          !(ofContainer container).configuring.isEmpty && firesOnHistory container tag := rfl
  rw [hflagged, List.mem_filter, List.mem_filter, and_assoc, Bool.or_eq_true, List.any_eq_true,
    Bool.and_eq_true]
  refine and_congr_right fun _ => and_congr_right fun _ => ?_
  constructor
  · rintro (⟨other, hother, hshared⟩ | ⟨hsome, hhistory⟩)
    · exact ⟨other, hother, .inl (by simpa using hshared)⟩
    · cases hc : (ofContainer container).configuring with
      | nil => rw [hc] at hsome; cases hsome
      | cons other rest => exact ⟨other, List.mem_cons_self .., .inr hhistory⟩
  · rintro ⟨other, hother, hshared | hhistory⟩
    · exact .inl ⟨other, hother, by simpa using hshared⟩
    · refine .inr ⟨?_, hhistory⟩
      cases hc : (ofContainer container).configuring with
      | nil => rw [hc] at hother; cases hother
      | cons _ _ => rfl

/-- A doubled page view stays doubled among more tags. -/
theorem flagged_subset_withTags (h : container.tags ⊆ tags) :
    (ofContainer container).flagged ⊆ (ofContainer (container.withTags tags)).flagged := by
  intro tag htag
  obtain ⟨hmem, hmanual, other, hother, hreason⟩ := mem_flagged_iff.mp htag
  exact mem_flagged_iff.mpr
    ⟨h hmem, hmanual, other, configuring_subset_withTags h hother, hreason⟩

end DoublePageView

namespace TagRules

variable {config : Config} {container : Container} {tags : List Tag}

/-- A tag without an issue in a container. -/
def IsClean (config : Config) (container : Container) (tag : Tag) : Prop :=
  issuesOfTag config container (DoublePageView.ofContainer container) tag = []

instance (config : Config) (container : Container) (tag : Tag) :
    Decidable (IsClean config container tag) := inferInstanceAs (Decidable (_ = _))

/-- A tag is clean if it breaks no rule. -/
theorem isClean_iff {tag : Tag} : IsClean config container tag ↔ ∀ category,
    breaks config container (DoublePageView.ofContainer container) tag category = false := by
  let issues := issuesOfTag config container (DoublePageView.ofContainer container) tag
  have hcount (category : Category) : Issue.countOf category issues =
      (breaks config container (DoublePageView.ofContainer container) tag category).toNat :=
    countOf_issuesOfTag category config container _ tag
  constructor
  · intro hclean category
    have hzero : Issue.countOf category issues = 0 := by
      rw [show issues = [] from hclean]
      rfl
    rw [hcount] at hzero
    exact Bool.toNat_eq_zero.mp hzero
  · intro hnone
    refine List.eq_nil_iff_forall_not_mem.mpr fun issue hissue => ?_
    have hpos : 0 < Issue.countOf issue.category issues :=
      List.countP_pos_iff.mpr ⟨issue, hissue, beq_self_eq_true _⟩
    rw [hcount, hnone] at hpos
    cases hpos

/-- A rule that a tag breaks is broken among more tags as well. -/
theorem breaks_withTags (h : container.tags ⊆ tags) {tag : Tag} {category : Category}
    (hbreaks : breaks config container (DoublePageView.ofContainer container) tag category = true) :
    breaks config (container.withTags tags)
      (DoublePageView.ofContainer (container.withTags tags)) tag category = true := by
  cases category with
  | doublePageview =>
    obtain ⟨flagged, hflagged, hid⟩ := List.mem_map.mp (List.contains_iff_mem.mp hbreaks)
    refine List.contains_iff_mem.mpr (List.mem_map.mpr ⟨flagged, ?_, hid⟩)
    exact DoublePageView.flagged_subset_withTags h hflagged
  | _ => exact hbreaks

/-- A tag that is clean among more tags was clean before. -/
theorem IsClean.of_withTags (h : container.tags ⊆ tags) {tag : Tag}
    (hclean : IsClean config (container.withTags tags) tag) : IsClean config container tag := by
  refine isClean_iff.mpr fun category => ?_
  by_contra hbreaks
  have hstill := breaks_withTags h (eq_true_of_ne_false hbreaks)
  rw [isClean_iff.mp hclean category] at hstill
  cases hstill

theorem clean_ofContainer (config : Config) (container : Container) :
    (ofContainer config container).clean =
      container.tags.countP fun tag => IsClean config container tag := by
  refine List.countP_congr fun tag _ => ?_
  rw [decide_eq_true_iff, List.isEmpty_iff]
  rfl

end TagRules

namespace Container

/-- An export with one more tag at the end of its tags. -/
def appendTag (data raw : Json) : Json :=
  exportWithTags data (((version data).get "tag").items ++ [raw])

/-- The tag that is read at the end of an export. -/
def appendedTag (data raw : Json) : Tag := .ofJson raw ((version data).get "tag").items.length

/-- A tag at the end is read after all others, and nothing else is read in another way. -/
theorem containerOf_appendTag {data raw : Json} (hdata : data.isObject = true)
    (hraw : raw.isObject = true) : Audit.containerOf (appendTag data raw) =
      (Audit.containerOf data).withTags
        ((Audit.containerOf data).tags ++ [appendedTag data raw]) := by
  obtain ⟨members, rfl⟩ : ∃ members, data = .object members := by
    cases data <;> first | exact ⟨_, rfl⟩ | cases hdata
  let items := ((version (.object members)).get "tag").items
  have hversion : (version (.object members)).isObject = true := by
    unfold version
    dsimp only
    split
    next hinner => exact hinner
    next => rfl
  have hreplaced : version (appendTag (.object members) raw) =
      (version (.object members)).replace "tag" (.array (items ++ [raw])) :=
    version_exportWithTags ..
  have htags : (ofVersion (version (appendTag (.object members) raw))).tags =
      (ofVersion (version (.object members))).tags ++ [appendedTag (.object members) raw] := by
    rw [hreplaced]
    -- the other tags keep their positions, so their identifiers too
    simp only [ofVersion, entries, Json.get_replace_self hversion, Json.items,
      List.zipIdx_append, List.filter_append, List.map_append]
    congr 1
    simp [hraw, appendedTag, items]
  obtain ⟨changed, hchanged⟩ : ∃ changed, appendTag (.object members) raw = .object changed := by
    unfold appendTag exportWithTags
    split <;> exact ⟨_, rfl⟩
  have hread : Audit.containerOf (appendTag (.object members) raw) =
      ofVersion (version (appendTag (.object members) raw)) := by
    rw [hchanged]
    rfl
  rw [hread]
  change _ = (ofVersion (version (.object members))).withTags
    ((ofVersion (version (.object members))).tags ++ [appendedTag (.object members) raw])
  rw [← htags, hreplaced]
  exact ofVersion_replace ..

end Container

namespace TagRules

/-- What the rules find in a container with one tag more than another one: whatever is clean in it
was clean before, and unless the tag is clean itself, no more tags are clean and their share does
not grow. -/
structure GrownBy (config : Config) (before after : Container) (added : Tag) : Prop where
  tags : after.tags = before.tags ++ [added]
  positions : ∀ (position : ℕ) (tag : Tag), before.tags[position]? = some tag →
    after.tags[position]? = some tag ∧ (IsClean config after tag → IsClean config before tag)
  total : (ofContainer config after).total = (ofContainer config before).total + 1
  paused : added.paused = true → ¬ IsClean config after added
  clean : ¬ IsClean config after added →
    (ofContainer config after).clean ≤ (ofContainer config before).clean
  fraction : ¬ IsClean config after added →
    (Score.cleanliness (ofContainer config after).total (ofContainer config after).clean : Exact) ≤
      Score.cleanliness (ofContainer config before).total (ofContainer config before).clean

theorem grownBy_withTags (config : Config) (container : Container) (added : Tag) :
    GrownBy config container (container.withTags (container.tags ++ [added])) added := by
  let after := container.withTags (container.tags ++ [added])
  have hsubset : container.tags ⊆ container.tags ++ [added] := List.subset_append_left ..
  have hclean : ¬ IsClean config after added →
      (ofContainer config after).clean ≤ (ofContainer config container).clean := by
    intro hadded
    rw [clean_ofContainer, clean_ofContainer]
    change (container.tags ++ [added]).countP (fun tag => IsClean config after tag) ≤ _
    rw [List.countP_append, List.countP_singleton, if_neg (by simpa using hadded), Nat.add_zero]
    refine List.countP_mono_left fun tag _ hafter => ?_
    exact decide_eq_true (IsClean.of_withTags hsubset (of_decide_eq_true hafter))
  have htotal : (ofContainer config after).total = (ofContainer config container).total + 1 :=
    List.length_append
  exact {
    tags := rfl
    positions := by
      intro position tag htag
      obtain ⟨hlt, -⟩ := List.getElem?_eq_some_iff.mp htag
      refine ⟨?_, IsClean.of_withTags hsubset⟩
      rw [← htag]
      exact List.getElem?_append_left hlt
    total := htotal
    paused := by
      intro hpaused hadded
      have hbreaks := isClean_iff.mp hadded .paused
      rw [breaks, hpaused] at hbreaks
      cases hbreaks
    clean := hclean
    fraction := by
      intro hadded
      rw [htotal]
      exact Score.cleanliness_succ_le List.countP_le_length (hclean hadded) }

/-- One more tag at the end of an export makes no other tag clean. -/
theorem grownBy_appendTag (config : Config) {data raw : Json} (hdata : data.isObject = true)
    (hraw : raw.isObject = true) :
    GrownBy config (Audit.containerOf data) (Audit.containerOf (Container.appendTag data raw))
      (Container.appendedTag data raw) := by
  rw [Container.containerOf_appendTag hdata hraw]
  exact grownBy_withTags config _ _

/-- An export with a tag that sends a page view by hand. -/
def manualPageViewExport : Json := .object [
  ("tag", .array [.object [("tagId", .string "1"), ("name", .string "page_view"),
    ("type", .string "gaawe"), ("firingTriggerId", .array [.string "2147479553"]),
    ("parameter", .array [.object [("key", .string "eventName"),
      ("value", .string "page_view")]])]])]

/-- A paused configuration tag without an identifier that fires on the same trigger. -/
def pausedConfiguration : Json := .object [("name", .string "ga4_config"),
  ("type", .string "googtag"), ("paused", .bool true),
  ("firingTriggerId", .array [.string "2147479553"])]

/-- The configuration doubles the page view, so the share of clean tags falls. -/
theorem grownBy_pausedConfiguration :
    manualPageViewExport.isObject = true ∧ pausedConfiguration.isObject = true ∧
      (Container.appendedTag manualPageViewExport pausedConfiguration).paused = true ∧
      (ofContainer Config.default (Audit.containerOf manualPageViewExport)).clean = 1 ∧
      (ofContainer Config.default (Audit.containerOf
        (Container.appendTag manualPageViewExport pausedConfiguration))).clean = 0 ∧
      GrownBy Config.default (Audit.containerOf manualPageViewExport)
        (Audit.containerOf (Container.appendTag manualPageViewExport pausedConfiguration))
        (Container.appendedTag manualPageViewExport pausedConfiguration) :=
  ⟨rfl, rfl, rfl, by decide +kernel, by decide +kernel, grownBy_appendTag Config.default rfl rfl⟩

end TagRules

end TagAudit
