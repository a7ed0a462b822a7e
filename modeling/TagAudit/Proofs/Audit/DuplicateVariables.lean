import TagAudit.Proofs.Audit.Outcomes
import TagAudit.Proofs.Duplicate.Counting

/-!
# Duplicate variables

Variables whose names differ in letter case alone form a class, and all but the first are
duplicates. They are kept by their identifiers, which variables may share, also those without one of
their own, since their names stand for it. Each duplicate is counted once and has one issue exactly
if no duplicate shares its identifier.
-/

namespace TagAudit

open Issue

namespace Variable

/-- Two variables have names that differ in letter case alone. -/
def SameName (self other : Variable) : Prop := self.name.lowered = other.name.lowered

instance : DecidableRel SameName := fun _ _ => inferInstanceAs (Decidable (_ = _))

theorem sameName_equivalence : Equivalence SameName := ⟨fun _ => rfl, Eq.symm, Eq.trans⟩

end Variable

namespace VariableQuality

open Variable

/-- The duplicates among variables are those in excess in the classes by name. -/
theorem duplicatesAmong_eq (examined : List Variable) :
    duplicatesAmong examined = duplicatePairs SameName (·.id) examined := by
  rw [duplicatesAmong, ← List.flatMap_map]
  exact flatMap_duplicatesIn_groupBy ..

/-- The duplicates of a container are counted once each, and have one issue each. -/
structure CountsDuplicatesOnce (container : Container) (quality : VariableQuality) : Prop where
  issues : countOf .variableDuplicate quality.issues = quality.duplicateTotal
  total : quality.duplicateTotal =
    ((classesOf SameName container.userVariables).map fun members => members.length - 1).sum
  /-- The first variable of a class has no issue as a duplicate. -/
  firsts : ∀ first ∈ firstsOf SameName container.userVariables, ∀ issue ∈ quality.issues,
    issue.category = .variableDuplicate → issue.entityId ≠ first.id
  /-- No variable is called a duplicate of itself. -/
  others : ∀ issue ∈ quality.issues, issue.category = .variableDuplicate →
    issue.facts.lookup "duplicate_of" ≠ some (.string issue.entityId)

section OfContainer

variable {config : Config} {container : Container} {referencedNames : List String}
  {quality : VariableQuality}

theorem duplicates_eq (h : ofContainer config container referencedNames = .ok quality) :
    quality.duplicates = duplicatePairs SameName (·.id) container.userVariables := by
  rw [ofContainer_eq] at h
  obtain ⟨judged, -, rfl⟩ := Failure.map_eq_ok_iff.mp h
  exact duplicatesAmong_eq container.userVariables

/-- An issue of a duplicate is that of a variable that is taken for one. -/
theorem exists_of_mem_issues (h : ofContainer config container referencedNames = .ok quality)
    {issue : Issue} (hi : issue ∈ quality.issues) (hc : issue.category = .variableDuplicate) :
    ∃ self first, firstOf? quality.duplicates self.id = some first ∧
      issue = duplicateIssue config self first := by
  rw [ofContainer_eq] at h
  obtain ⟨judged, -, rfl⟩ := Failure.map_eq_ok_iff.mp h
  obtain ⟨⟨self, finding⟩, -, hi⟩ := List.mem_flatMap.mp hi
  rcases List.mem_append.mp hi with hi | hi
  · rcases List.mem_append.mp hi with hi | hi
    · obtain ⟨found, -, rfl⟩ := Option.map_eq_some_iff.mp (Option.mem_toList.mp hi)
      cases hc
    · split at hi
      · cases hi
      · cases List.mem_singleton.mp hi
        cases hc
  · obtain ⟨first, hf, rfl⟩ := Option.map_eq_some_iff.mp (Option.mem_toList.mp hi)
    exact ⟨self, first, hf, rfl⟩

/-- Duplicates are counted once each exactly if none shares its identifier. -/
theorem countsDuplicatesOnce_iff
    (h : ofContainer config container referencedNames = .ok quality) :
    quality.CountsDuplicatesOnce container ↔
      IdentifiesExcess SameName (·.id) container.userVariables := by
  have hcounts : countOf .variableDuplicate quality.issues = quality.duplicateTotal ↔
      IdentifiesExcess SameName (·.id) container.userVariables := by
    rw [← duplicateCount_eq_countP_iff sameName_equivalence, ← duplicates_eq h,
      countOf_variableDuplicate_issues h, duplicateTotal, eq_comm]
  refine ⟨fun once => hcounts.mp once.issues, fun hids => ?_⟩
  obtain ⟨hnodup, hfirst⟩ := (identifiesExcess_iff sameName_equivalence).mp hids
  have hexcess : ∀ {i first}, firstOf? quality.duplicates i = some first →
      i ∈ (excessOf SameName container.userVariables).map (·.id) := by
    intro i first hf
    rw [← map_fst_duplicatePairs, ← duplicates_eq h, ← isSome_firstOf?_iff, hf]
    rfl
  refine ⟨hcounts.mpr hids, ?_, fun first hmem issue hi hc he => ?_, fun issue hi hc hown => ?_⟩
  · rw [duplicateTotal, duplicates_eq h, duplicateCount_eq_length_iff.mpr hnodup, length_excessOf]
  · obtain ⟨self, other, hf, rfl⟩ := exists_of_mem_issues h hi hc
    exact hfirst first hmem (he ▸ hexcess hf)
  · obtain ⟨self, other, hf, rfl⟩ := exists_of_mem_issues h hi hc
    have hself : other = self.id := by simpa [duplicateIssue, variableIssue] using hown
    have hother := hf
    rw [duplicates_eq h] at hother
    obtain ⟨first, hmem, he⟩ := exists_of_firstOf?_eq_some hother
    exact hfirst first hmem (by rw [he, hself]; exact hexcess hf)

end OfContainer

end VariableQuality

namespace Audit

open Variable

/-- The analysis of variables counts each duplicate once exactly if it gives a result and no
duplicate shares its identifier. -/
theorem duplicatesCountedOnce_iff (config : Config) (container : Container) :
    (∃ report, variableReport config container = .ok report ∧
      report.1.CountsDuplicatesOnce container) ↔
    (variableReport config container).isOk = true ∧
      IdentifiesExcess SameName (·.id) container.userVariables := by
  constructor
  · rintro ⟨report, hr, once⟩
    refine ⟨by rw [hr]; rfl, ?_⟩
    exact (VariableQuality.countsDuplicatesOnce_iff (ofContainer_of_variableReport hr)).mp once
  · rintro ⟨hok, hids⟩
    obtain ⟨report, hr⟩ := Failure.exists_of_isOk hok
    refine ⟨report, hr, ?_⟩
    exact (VariableQuality.countsDuplicatesOnce_iff (ofContainer_of_variableReport hr)).mpr hids

/-- A container with three variables of one name, two of them without an identifier. -/
def sharedNameExport : Json := .object [("variable", .array [
  .object [("variableId", .string "1"), ("name", .string "x")],
  .object [("name", .string "X")], .object [("name", .string "X")]])]

/-- The two duplicates have the same identifier, so each has an issue but one is counted. -/
theorem not_countsDuplicatesOnce_sharedNameExport :
    ((variableReport Config.default (containerOf sharedNameExport)).map fun report =>
      (countOf .variableDuplicate report.1.issues, report.1.duplicateTotal)) = .ok (2, 1) ∧
    ((classesOf SameName (containerOf sharedNameExport).userVariables).map fun members =>
      members.length - 1).sum = 2 ∧
    ¬ ∃ report, variableReport Config.default (containerOf sharedNameExport) = .ok report ∧
      report.1.CountsDuplicatesOnce (containerOf sharedNameExport) := by
  have hcounts : ((variableReport Config.default (containerOf sharedNameExport)).map fun report =>
      (countOf .variableDuplicate report.1.issues, report.1.duplicateTotal)) = .ok (2, 1) := by
    decide +kernel
  refine ⟨hcounts, by decide +kernel, ?_⟩
  rintro ⟨report, hr, once⟩
  rw [hr] at hcounts
  obtain ⟨hissues, htotal⟩ := Prod.mk.inj (Except.ok.inj hcounts)
  have hsame := once.issues
  rw [hissues, htotal] at hsame
  cases hsame

end Audit

end TagAudit
