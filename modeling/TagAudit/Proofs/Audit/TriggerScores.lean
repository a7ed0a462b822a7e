import TagAudit.Proofs.Audit.Referencing
import TagAudit.Proofs.Duplicate.Counting
import TagAudit.Proofs.Score.ShareLeft

/-!
# Scores of triggers and their issues

Four scores of triggers take off a share for what is wrong. Those for specificity and timing take it
off for the triggers that have an issue. The others take it off for identifiers: those that block
tags in the wrong way, of which some may belong to no trigger and some to several, and those of
duplicates. This module tells exactly when all four agree with the issues.
-/

namespace TagAudit

open Issue

namespace Trigger

/-- Two triggers have one signature. -/
def SameSignature (trigger other : Trigger) : Prop := trigger.signature = other.signature

instance : DecidableRel SameSignature := fun _ _ => inferInstanceAs (Decidable (_ = _))

theorem sameSignature_equivalence : Equivalence SameSignature := ⟨fun _ => rfl, Eq.symm, Eq.trans⟩

end Trigger

namespace TriggerQuality

open Trigger

/-- Groups of one have no duplicates. -/
theorem flatMap_filter_duplicatesIn (groups : List (List String)) :
    (groups.filter (1 < ·.length)).flatMap duplicatesIn = groups.flatMap duplicatesIn := by
  induction groups with
  | nil => rfl
  | cons ids groups ih =>
    rw [List.filter_cons]
    split
    · rw [List.flatMap_cons, List.flatMap_cons, ih]
    · rename_i hlength
      have hnone : duplicatesIn ids = [] := by
        match ids with
        | [] | [_] => rfl
        | _ :: _ :: _ => simp at hlength
      rw [List.flatMap_cons, hnone, ih, List.nil_append]

/-- The duplicates among triggers are those in excess in the classes by signature. -/
theorem duplicatesOf_eq (container : Container) :
    duplicatesOf container = duplicatePairs SameSignature (·.id) container.triggers := by
  rw [duplicatesOf, Trigger.duplicateGroups, flatMap_filter_duplicatesIn]
  exact flatMap_duplicatesIn_groupBy ..

/-- Four scores are one less the share of triggers with an issue of their categories. -/
structure BackedByIssues (config : Config) (container : Container) (quality : TriggerQuality) :
    Prop where
  specificity : (quality.aspectScore config .specificity : Number) =
    Score.shareLeft (countOf .triggerAllPages quality.issues) (max container.triggers.length 1)
  blocking : (quality.aspectScore config .blocking : Number) =
    Score.shareLeft (countOf .triggerBlocking quality.issues) (max container.triggers.length 1)
  timing : (quality.aspectScore config .timing : Number) =
    Score.shareLeft (countOf .triggerTiming quality.issues) (max container.triggers.length 1)
  hygiene : (quality.aspectScore config .hygiene : Number) =
    Score.shareLeft
      (countOf .triggerUnused quality.issues + countOf .triggerDuplicate quality.issues)
      (max container.triggers.length 1)

/-- What the scores of a container take off comes to the same as its issues. -/
structure Balanced (container : Container) : Prop where
  /-- Identifiers that block in the wrong way are as many as triggers that have one, counted up to
  the number of triggers. -/
  blocking : ∀ blockings, wrongBlockings container = .ok blockings →
    min (blockings.map (·.triggerId)).eraseDups.length (max container.triggers.length 1) =
      container.triggers.countP fun trigger =>
        decide (trigger.id ∈ blockings.map (·.triggerId))
  /-- No duplicate shares its identifier, unless nothing is left to take off. -/
  hygiene : IdentifiesExcess SameSignature (·.id) container.triggers ∨
    max container.triggers.length 1 ≤
      (container.triggers.countP fun trigger =>
        decide (¬ UsageGraph.RefersToTrigger container trigger.id)) +
      ((excessOf SameSignature container.triggers).map (·.id)).eraseDups.length

section OfContainer

variable {container : Container} {referenced : List String} {quality : TriggerQuality}

theorem duplicates_eq (h : ofContainer container referenced = .ok quality) :
    quality.duplicates = duplicatePairs SameSignature (·.id) container.triggers := by
  obtain ⟨blockings, judged, -, rfl⟩ := exists_of_ofContainer_eq_ok h
  exact duplicatesOf_eq container

/-- The scores for specificity and timing are always backed, so the others decide. -/
theorem backedByIssues_iff (h : ofContainer container referenced = .ok quality) (config : Config) :
    quality.BackedByIssues config container ↔
      (Score.shareLeft quality.wrongBlockers (max container.triggers.length 1) : Number) =
        Score.shareLeft (countOf .triggerBlocking quality.issues)
          (max container.triggers.length 1) ∧
      (Score.shareLeft (quality.unused + quality.duplicateTotal)
          (max container.triggers.length 1) : Number) =
        Score.shareLeft
          (countOf .triggerUnused quality.issues + countOf .triggerDuplicate quality.issues)
          (max container.triggers.length 1) := by
  rw [← total_eq h]
  constructor
  · rintro ⟨-, hblocking, -, hhygiene⟩
    rw [← total_eq h] at hblocking hhygiene
    exact ⟨hblocking, hhygiene⟩
  · rintro ⟨hblocking, hhygiene⟩
    constructor <;> rw [← total_eq h]
    · rw [countOf_triggerAllPages_issues h]
      rfl
    · exact hblocking
    · rw [countOf_triggerTiming_issues h]
      rfl
    · exact hhygiene

/-- A container is balanced exactly if the numbers that are taken off are those of the issues, up to
the number of triggers. -/
theorem balanced_iff (h : ofContainer container referenced = .ok quality)
    (hreferenced : ∀ id, id ∈ referenced ↔ UsageGraph.RefersToTrigger container id) :
    Balanced container ↔
      min quality.wrongBlockers (max container.triggers.length 1) =
        min (countOf .triggerBlocking quality.issues) (max container.triggers.length 1) ∧
      min (quality.unused + quality.duplicateTotal) (max container.triggers.length 1) =
        min (countOf .triggerUnused quality.issues + countOf .triggerDuplicate quality.issues)
          (max container.triggers.length 1) := by
  have hblockers : countOf .triggerBlocking quality.issues ≤ container.triggers.length := by
    rw [countOf_triggerBlocking_issues h]
    exact List.countP_le_length
  have hfound : min (countOf .triggerBlocking quality.issues) (max container.triggers.length 1) =
      countOf .triggerBlocking quality.issues := by omega
  have hduplicates : quality.duplicateTotal =
      ((excessOf SameSignature container.triggers).map (·.id)).eraseDups.length := by
    rw [duplicateTotal, duplicateCount, duplicates_eq h, map_fst_duplicatePairs]
  have hsame : quality.duplicateTotal = countOf .triggerDuplicate quality.issues ↔
      IdentifiesExcess SameSignature (·.id) container.triggers := by
    rw [← duplicateCount_eq_countP_iff sameSignature_equivalence, ← duplicates_eq h,
      countOf_triggerDuplicate_issues h, duplicateTotal]
  have hle : quality.duplicateTotal ≤ countOf .triggerDuplicate quality.issues := by
    rw [countOf_triggerDuplicate_issues h, duplicateTotal, duplicates_eq h]
    exact duplicateCount_le_countP sameSignature_equivalence ..
  have hunused : (container.triggers.countP fun trigger =>
      decide (¬ UsageGraph.RefersToTrigger container trigger.id)) = quality.unused := by
    rw [unused_eq h]
    refine List.countP_congr fun trigger _ => ?_
    simp [← hreferenced]
  have hhygiene : min (quality.unused + quality.duplicateTotal) (max container.triggers.length 1) =
      min (quality.unused + countOf .triggerDuplicate quality.issues)
        (max container.triggers.length 1) ↔
      quality.duplicateTotal = countOf .triggerDuplicate quality.issues ∨
        max container.triggers.length 1 ≤ quality.unused + quality.duplicateTotal := by
    omega
  rw [hfound, countOf_triggerUnused_issues h, hhygiene, hsame, countOf_triggerBlocking_issues h,
    hduplicates, ← hunused]
  constructor
  · intro hb
    exact ⟨hb.blocking _ (wrongBlockings_of_ofContainer h), hb.hygiene⟩
  · rintro ⟨hblocking, hhyg⟩
    refine ⟨fun blockings hb => ?_, hhyg⟩
    rw [wrongBlockings_of_ofContainer h] at hb
    cases hb
    exact hblocking

end OfContainer

end TriggerQuality

namespace Audit

open TriggerQuality

/-- The analysis of triggers gives scores that are backed by issues where it gives a result and the
container is balanced. Among fewer than `2 ^ 50` triggers it does so nowhere else. -/
theorem scoresBacked_iff (config : Config) (container : Container) :
    ((triggerReport config container).isOk = true ∧ Balanced container →
      ∃ report, triggerReport config container = .ok report ∧
        report.1.BackedByIssues config container) ∧
    (container.triggers.length < 2 ^ 50 →
      ((∃ report, triggerReport config container = .ok report ∧
          report.1.BackedByIssues config container) ↔
        (triggerReport config container).isOk = true ∧ Balanced container)) := by
  have hpos : 0 < max container.triggers.length 1 := by omega
  have hreferenced : ∀ id, id ∈ (graph config container).referencedTriggerIds ↔
      UsageGraph.RefersToTrigger container id :=
    fun _ => UsageGraph.mem_referencedTriggerIds_ofContainer
  have hbacked : (triggerReport config container).isOk = true ∧ Balanced container →
      ∃ report, triggerReport config container = .ok report ∧
        report.1.BackedByIssues config container := by
    rintro ⟨hok, hbalanced⟩
    obtain ⟨report, hr⟩ := Failure.exists_of_isOk hok
    have hq := ofContainer_of_triggerReport hr
    obtain ⟨hblocking, hhygiene⟩ := (balanced_iff hq hreferenced).mp hbalanced
    refine ⟨report, hr, (backedByIssues_iff hq config).mpr ⟨?_, ?_⟩⟩
    · exact Score.shareLeft_congr hpos hblocking
    · exact Score.shareLeft_congr hpos hhygiene
  refine ⟨hbacked, fun hfew => ⟨?_, hbacked⟩⟩
  rintro ⟨report, hr, hissues⟩
  have hq := ofContainer_of_triggerReport hr
  have hsmall : max container.triggers.length 1 < 2 ^ 50 := by omega
  obtain ⟨hblocking, hhygiene⟩ := (backedByIssues_iff hq config).mp hissues
  refine ⟨by rw [hr]; rfl, (balanced_iff hq hreferenced).mpr ⟨?_, ?_⟩⟩
  · exact (Score.shareLeft_eq_iff hpos hsmall).mp hblocking
  · exact (Score.shareLeft_eq_iff hpos hsmall).mp hhygiene

/-- The only trigger of the example has no duplicate and blocks nothing: its scores are backed. -/
theorem scoresBacked_pausedTagExport :
    Balanced (containerOf pausedTagExport) ∧
      (containerOf pausedTagExport).triggers.length < 2 ^ 50 ∧
      ∃ report, triggerReport Config.default (containerOf pausedTagExport) = .ok report ∧
        report.1.BackedByIssues Config.default (containerOf pausedTagExport) := by
  obtain ⟨trigger, htriggers⟩ :
      ∃ trigger, (containerOf pausedTagExport).triggers = [trigger] := ⟨_, rfl⟩
  have hids : IdentifiesExcess Trigger.SameSignature (·.id)
      (containerOf pausedTagExport).triggers := by
    intro other hother
    rw [htriggers, excessOf_cons Trigger.sameSignature_equivalence] at hother
    cases hother
  have hbalanced : Balanced (containerOf pausedTagExport) := by
    refine ⟨fun blockings hb => ?_, Or.inl hids⟩
    have hnone : wrongBlockings (containerOf pausedTagExport) = .ok [] := by decide +kernel
    rw [hnone] at hb
    cases hb
    decide +kernel
  have hfew : (containerOf pausedTagExport).triggers.length < 2 ^ 50 := by decide +kernel
  have hok : (triggerReport Config.default (containerOf pausedTagExport)).isOk = true := by
    decide +kernel
  exact ⟨hbalanced, hfew,
    ((scoresBacked_iff Config.default (containerOf pausedTagExport)).2 hfew).mpr ⟨hok, hbalanced⟩⟩

/-- A container with a trigger, and with a tag that fires on a trigger of every container and is
blocked by the same. -/
def builtInBlockerExport : Json := .object [
  ("tag", .array [.object [("tagId", .string "1"), ("type", .string "awct"),
    ("firingTriggerId", .array [.string "2147479553", .string "5"]),
    ("blockingTriggerId", .string "2147479553")]]),
  ("trigger", .array [.object [("triggerId", .string "5"), ("type", .string "customEvent")]])]

/-- The score for blocking is zero, but no issue tells why. -/
theorem not_backedByIssues_builtInBlockerExport :
    ((triggerReport Config.default (containerOf builtInBlockerExport)).map fun report =>
      (report.1.issues, (report.1.aspectScore Config.default .blocking : Number))) =
        .ok ([], .decimal 0 0) ∧
    ¬ ∃ report, triggerReport Config.default (containerOf builtInBlockerExport) = .ok report ∧
      report.1.BackedByIssues Config.default (containerOf builtInBlockerExport) := by
  have hreport : ((triggerReport Config.default (containerOf builtInBlockerExport)).map
      fun report => (report.1.issues, (report.1.aspectScore Config.default .blocking : Number))) =
        .ok ([], .decimal 0 0) := by
    decide +kernel
  refine ⟨hreport, ?_⟩
  rintro ⟨report, hr, hissues⟩
  rw [hr] at hreport
  obtain ⟨hnone, hscore⟩ := Prod.mk.inj (Except.ok.inj hreport)
  have hblocking := hissues.blocking
  rw [hscore, hnone] at hblocking
  revert hblocking
  decide +kernel

end Audit

end TagAudit
