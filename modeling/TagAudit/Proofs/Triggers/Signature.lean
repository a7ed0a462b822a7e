import Mathlib
import TagAudit.Container.Basic
import TagAudit.Proofs.Duplicate
import TagAudit.Proofs.Json.Canonical
import TagAudit.Triggers.Duplicate

/-!
# Signatures of triggers

Triggers have one signature exactly when they are of one family and have the same conditions of
each kind, in any order. So the groups of duplicates are the classes of such triggers.
-/

namespace TagAudit

open Json (Rearranged)

namespace Condition

/-- Two lists hold the same conditions in any order. -/
def Permuted (cs ds : List Json) : Prop := ∃ zs, List.Forall₂ Rearranged cs zs ∧ zs.Perm ds

/-- Sorted texts are equal exactly when the texts are the same in any order. -/
theorem normalized_eq_iff_perm {cs ds : List Json} :
    normalized cs = normalized ds ↔
      (cs.map fun c => String.ofList c.canonical).Perm
        (ds.map fun d => String.ofList d.canonical) := by
  constructor
  · intro h
    refine (List.mergeSort_perm _ fun a b => a ≤ b).symm.trans ?_
    exact (List.Perm.of_eq h).trans (List.mergeSort_perm _ _)
  · exact mergeSort_eq_of_perm id fun _ _ _ _ he => he

/-- Each condition of a list is among the same conditions in any order. -/
theorem Permuted.exists_rearranged {cs ds : List Json} (h : Permuted cs ds) {c : Json}
    (hc : c ∈ cs) : ∃ d ∈ ds, Rearranged c d := by
  obtain ⟨zs, hzs, hperm⟩ := h
  obtain ⟨n, hn, rfl⟩ := List.getElem_of_mem hc
  obtain ⟨hlength, hget⟩ := List.forall₂_iff_get.mp hzs
  exact ⟨zs[n], hperm.mem_iff.mp (List.getElem_mem _), hget n hn (hlength ▸ hn)⟩

/-- Conditions are normalized alike exactly when they are the same in any order. -/
theorem normalized_eq_iff {cs ds : List Json} (hcs : ∀ c ∈ cs, c.hasDistinctKeys = true) :
    normalized cs = normalized ds ↔ Permuted cs ds := by
  have hpairs : ∀ zs, (cs.map fun c => String.ofList c.canonical) =
      (zs.map fun z => String.ofList z.canonical) ↔ List.Forall₂ Rearranged cs zs := by
    intro zs
    constructor
    · intro h
      rw [← List.forall₂_eq_eq_eq, List.forall₂_map_left_iff, List.forall₂_map_right_iff] at h
      refine ((List.forall₂_and_left cs zs).mpr ⟨hcs, h⟩).imp ?_
      rintro c z ⟨hc, hcz⟩
      exact (Json.canonical_eq_iff hc).mp (String.ofList_inj.mp hcz)
    · exact map_eq_map_of_forall₂ fun c hc z hcz => congrArg _ (hcz.canonical_eq (hcs c hc))
  rw [normalized_eq_iff_perm]
  constructor
  · intro h
    obtain ⟨zs, htexts, hperm⟩ := (congrFun₂ (List.eq_map_comp_perm _) _ _).mpr h
    exact ⟨zs, (hpairs zs).mp htexts, hperm⟩
  · rintro ⟨zs, hzs, hperm⟩
    rw [(hpairs zs).mpr hzs]
    exact hperm.map _

end Condition

namespace Trigger

/-- Triggers of one family with the same conditions of each kind, in any order. -/
structure Interchangeable (t u : Trigger) : Prop where
  family : t.family = u.family
  filters : Condition.Permuted t.filters u.filters
  autoEventFilters : Condition.Permuted t.autoEventFilters u.autoEventFilters
  customEventFilters : Condition.Permuted t.customEventFilters u.customEventFilters

/-- The trigger is read from an exported value, whose objects have their keys once. -/
def Exported (t : Trigger) : Prop :=
  ∃ raw position, raw.hasDistinctKeys = true ∧ t = ofJson raw position

/-- The triggers of a container that is read from a text are exported. -/
theorem exported_of_mem_triggers {source : List Char} {data : Json} {container : Container}
    (hread : Json.read source = .ok data) (hdata : Container.ofExport data = .ok container)
    {t : Trigger} (ht : t ∈ container.triggers) : t.Exported := by
  have hdistinct := Json.hasDistinctKeys_of_read hread
  cases data with
  | null =>
    cases hdata
    cases ht
  | object members =>
    cases hdata
    obtain ⟨⟨raw, position⟩, hentry, rfl⟩ := List.mem_map.mp ht
    have hversion : (Container.version (.object members)).hasDistinctKeys = true := by
      unfold Container.version
      dsimp only
      split
      · exact Json.hasDistinctKeys_get hdistinct _
      · exact hdistinct
    have hraw := List.fst_mem_of_mem_zipIdx (List.mem_filter.mp hentry).1
    exact ⟨raw, position, Json.hasDistinctKeys_of_mem_items
      (Json.hasDistinctKeys_get hversion _) hraw, rfl⟩
  | _ => cases hdata

/-- Conditions of an exported trigger have their keys once. -/
theorem Exported.hasDistinctKeys {t : Trigger} (ht : t.Exported) :
    ∀ c ∈ t.conditions, c.hasDistinctKeys = true := by
  obtain ⟨raw, position, hraw, rfl⟩ := ht
  intro c hc
  rcases List.mem_append.mp hc with hc | hc
  · rcases List.mem_append.mp hc with hc | hc
    · exact Json.hasDistinctKeys_of_mem_items (Json.hasDistinctKeys_get hraw _) hc
    · exact Json.hasDistinctKeys_of_mem_items (Json.hasDistinctKeys_get hraw _) hc
  · exact Json.hasDistinctKeys_of_mem_items (Json.hasDistinctKeys_get hraw _) hc

/-- What the signature of a trigger writes. -/
def signatureValue (t : Trigger) : Json :=
  .object [("type", .string t.family),
    ("filter", .strings (Condition.normalized t.filters)),
    ("autoEventFilter", .strings (Condition.normalized t.autoEventFilters)),
    ("customEventFilter", .strings (Condition.normalized t.customEventFilters))]

/-- The signature is the canonical form of the family and the normalized conditions. -/
theorem signature_eq (t : Trigger) : t.signature = .ofList t.signatureValue.canonical := rfl

/-- Signatures are equal exactly when families and normalized conditions are. -/
theorem signature_eq_iff_normalized {t u : Trigger} :
    t.signature = u.signature ↔ t.family = u.family ∧
      Condition.normalized t.filters = Condition.normalized u.filters ∧
      Condition.normalized t.autoEventFilters = Condition.normalized u.autoEventFilters ∧
      Condition.normalized t.customEventFilters = Condition.normalized u.customEventFilters := by
  constructor
  · intro h
    rw [signature_eq, signature_eq, String.ofList_inj] at h
    have hkeys : ∀ v : Trigger, (v.signatureValue.members.map (·.1)).Nodup := by
      intro v
      change ["type", "filter", "autoEventFilter", "customEventFilter"].Nodup
      decide
    have hdistinct : t.signatureValue.hasDistinctKeys = true := by
      refine Json.hasDistinctKeys_object.mpr ⟨hkeys t, ?_⟩
      simp [Json.hasDistinctKeys_strings, Json.hasDistinctKeys]
    have hvalues := (Json.canonical_eq_iff hdistinct).mp h
    have hget := hvalues.get (hkeys u)
    exact ⟨(hget "type").eq_of_string, (hget "filter").eq_of_strings,
      (hget "autoEventFilter").eq_of_strings, (hget "customEventFilter").eq_of_strings⟩
  · rintro ⟨hfamily, hfilters, hauto, hcustom⟩
    rw [signature, signature, hfamily, hfilters, hauto, hcustom]

/-- Exported triggers have one signature exactly when they are interchangeable. -/
theorem Exported.signature_eq_iff {t u : Trigger} (ht : t.Exported) :
    t.signature = u.signature ↔ t.Interchangeable u := by
  have hconditions := ht.hasDistinctKeys
  have hfilters : ∀ c ∈ t.filters, c.hasDistinctKeys = true :=
    fun c hc => hconditions c (List.mem_append_left _ (List.mem_append_left _ hc))
  have hauto : ∀ c ∈ t.autoEventFilters, c.hasDistinctKeys = true :=
    fun c hc => hconditions c (List.mem_append_left _ (List.mem_append_right _ hc))
  have hcustom : ∀ c ∈ t.customEventFilters, c.hasDistinctKeys = true :=
    fun c hc => hconditions c (List.mem_append_right _ hc)
  rw [signature_eq_iff_normalized, Condition.normalized_eq_iff hfilters,
    Condition.normalized_eq_iff hauto, Condition.normalized_eq_iff hcustom]
  exact ⟨fun ⟨h, hf, ha, hc⟩ => ⟨h, hf, ha, hc⟩, fun ⟨h, hf, ha, hc⟩ => ⟨h, hf, ha, hc⟩⟩

/-- Interchangeable exported triggers make up classes. -/
theorem equivalence_interchangeable :
    Equivalence fun t u : {t : Trigger // t.Exported} => t.1.Interchangeable u.1 where
  refl t := t.2.signature_eq_iff.mp rfl
  symm := fun {t u} h => u.2.signature_eq_iff.mp (t.2.signature_eq_iff.mpr h).symm
  trans := fun {t u _} h h' => t.2.signature_eq_iff.mp
    ((t.2.signature_eq_iff.mpr h).trans (u.2.signature_eq_iff.mpr h'))

open scoped Classical in
/-- Exported triggers have one signature exactly when they are interchangeable, which makes classes
of them. The groups of duplicates are the classes of several triggers: the identifiers of a class in
order, and the classes in the order of their first triggers. -/
theorem signature_faithful :
    (∀ t u : Trigger, t.Exported → u.Exported →
      (t.signature = u.signature ↔ t.Interchangeable u)) ∧
    (Equivalence fun t u : {t : Trigger // t.Exported} => t.1.Interchangeable u.1) ∧
    ∀ triggers : List Trigger, (∀ t ∈ triggers, t.Exported) →
      duplicateGroups triggers =
        ((classesOf Interchangeable triggers).filter (1 < ·.length)).map (List.map (·.id)) := by
  refine ⟨fun t u ht _ => ht.signature_eq_iff, equivalence_interchangeable,
    fun triggers hexported => ?_⟩
  have hclasses : classesOf (fun t u => t.signature = u.signature) triggers =
      classesOf Interchangeable triggers :=
    classesOf_congr fun t ht u _ => (hexported t ht).signature_eq_iff
  rw [duplicateGroups, groupBy_map, hclasses, List.filter_map]
  refine congrArg _ (List.filter_congr fun group _ => ?_)
  rw [Function.comp_apply, List.length_map]

/-- A trigger on an event with some conditions. -/
def eventTrigger (id : String) (conditions : List Json) : Trigger :=
  ofJson (.object [("triggerId", .string id), ("type", .string "customEvent"),
    ("customEventFilter", .array conditions)]) 0

/-- Triggers on an event are exported where their conditions are. -/
theorem exported_eventTrigger {id : String} {conditions : List Json}
    (h : ∀ c ∈ conditions, c.hasDistinctKeys = true) : (eventTrigger id conditions).Exported := by
  refine ⟨_, 0, Json.hasDistinctKeys_object.mpr ⟨?_, ?_⟩, rfl⟩
  · change ["triggerId", "type", "customEventFilter"].Nodup
    decide
  · have harray := Json.hasDistinctKeys_array.mpr h
    simp only [List.forall_mem_cons, harray, true_and]
    exact ⟨rfl, rfl, List.forall_mem_nil _⟩

/-- Triggers on an event are interchangeable exactly when they have the same conditions. -/
theorem interchangeable_eventTrigger_iff {id id' : String} {cs ds : List Json} :
    (eventTrigger id cs).Interchangeable (eventTrigger id' ds) ↔ Condition.Permuted cs ds := by
  constructor
  · intro h
    exact h.customEventFilters
  · intro h
    exact ⟨rfl, ⟨[], .nil, .nil⟩, ⟨[], .nil, .nil⟩, h⟩

/-- Conditions in another order, with their members in another order, make a duplicate. A truth
value in place of a number does not. -/
theorem signature_faithful_eventTriggers :
    let event : Json := .object [("type", .string "equals"), ("value", .string "purchase")]
    let count : Json := .object [("type", .string "equals"), ("value", .nat 1)]
    let count' : Json := .object [("value", .nat 1), ("type", .string "equals")]
    let truth : Json := .object [("type", .string "equals"), ("value", .bool true)]
    let triggers := [eventTrigger "1" [event, count], eventTrigger "2" [count', event],
      eventTrigger "3" [event, truth]]
    (∀ t ∈ triggers, t.Exported) ∧ duplicateGroups triggers = [["1", "2"]] := by
  intro event count count' truth triggers
  have hfirst : (eventTrigger "1" [event, count]).Exported := exported_eventTrigger (by decide)
  have hsecond : (eventTrigger "2" [count', event]).Exported := exported_eventTrigger (by decide)
  have hthird : (eventTrigger "3" [event, truth]).Exported := exported_eventTrigger (by decide)
  have hcount : Rearranged count count' :=
    .object rfl (List.forall₂_same.mpr fun v _ => .refl v) (.swap _ _ _)
  have hsame : (eventTrigger "1" [event, count]).signature =
      (eventTrigger "2" [count', event]).signature := by
    rw [signature_faithful.1 _ _ hfirst hsecond, interchangeable_eventTrigger_iff]
    exact ⟨[event, count'], .cons (.refl event) (.cons hcount .nil), .swap _ _ _⟩
  have hother : (eventTrigger "1" [event, count]).signature ≠
      (eventTrigger "3" [event, truth]).signature := by
    rw [Ne, signature_faithful.1 _ _ hfirst hthird, interchangeable_eventTrigger_iff]
    intro h
    have hmem : count ∈ [event, count] := List.mem_cons_of_mem _ (List.mem_cons_self ..)
    obtain ⟨d, hd, hrearranged⟩ := h.exists_rearranged hmem
    rcases List.mem_cons.mp hd with rfl | hd
    · cases hrearranged.get (by decide) "value"
    · cases List.mem_singleton.mp hd
      cases hrearranged.get (by decide) "value"
  refine ⟨?_, ?_⟩
  · exact List.forall_mem_cons.mpr ⟨hfirst, List.forall_mem_cons.mpr ⟨hsecond,
      List.forall_mem_singleton.mpr hthird⟩⟩
  · have hgroups : ∀ {a b c : Trigger}, a.signature = b.signature → a.signature ≠ c.signature →
        duplicateGroups [a, b, c] = [[a.id, b.id]] := by
      intro a b c hab hac
      simp [duplicateGroups, groupBy, putIntoGroup, ← hab, hac]
    exact hgroups hsame hother

end Trigger

end TagAudit
