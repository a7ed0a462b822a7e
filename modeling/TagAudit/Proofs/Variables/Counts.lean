import Mathlib.Data.List.Count
import Mathlib.Algebra.BigOperators.Group.List.Basic
import TagAudit.Proofs.Distinct
import TagAudit.Proofs.Variables.Issues

/-!
# Counting variables

Every fault is one of variables of a single kind, and a variable has one fault at most. A fault is
therefore counted no more often than there are variables of its kind, and the numbers of variables
of each kind add up to the number of all.
-/

namespace TagAudit

/-- The kind of variables that a fault is found in. -/
def VariableFault.kind : VariableFault → VariableKind
  | missingFallback => .dataLayer
  | lookupWithoutDefault => .lookup
  | malformedRegex => .regexTable
  | fragileSelector => .selector
  | unsafeCode => .customScript

namespace Variable

/-- The search for a faulty pattern finds nothing but faulty patterns. -/
theorem fault_of_firstMalformed? {patterns : List String} {finding : VariableFinding}
    (h : firstMalformed? patterns = .ok (some finding)) : finding.fault = .malformedRegex := by
  induction patterns with
  | nil => cases h
  | cons pattern rest ih =>
    rw [firstMalformed?] at h
    obtain ⟨found, -, h⟩ := Failure.bind_eq_ok_iff.mp h
    cases found with
    | none => exact ih h
    | some fault =>
      cases h
      rfl

/-- A variable with a fault is of the kind that the fault is found in. -/
theorem kind_of_finding? {self : Variable} {finding : VariableFinding}
    (h : self.finding? = .ok (some finding)) : self.kind = finding.fault.kind := by
  rw [finding?] at h
  cases hkind : self.kind with
  | dataLayer =>
    rw [hkind] at h
    dsimp only at h
    split at h <;> cases h
    rfl
  | lookup =>
    rw [hkind] at h
    dsimp only at h
    split at h <;> cases h
    rfl
  | regexTable =>
    rw [hkind] at h
    rw [fault_of_firstMalformed? h]
    rfl
  | selector =>
    rw [hkind] at h
    dsimp only [selectorFinding?] at h
    split at h <;> cases h
    rfl
  | customScript =>
    rw [hkind] at h
    obtain ⟨script, -, hscript⟩ := Option.bind_eq_some_iff.mp (Except.ok.inj h)
    dsimp only [scriptFinding?] at hscript
    split at hscript <;> cases hscript
    rfl
  | constant =>
    rw [hkind] at h
    cases h
  | other =>
    rw [hkind] at h
    cases h

end Variable

namespace VariableQuality

variable {config : Config} {container : Container} {referencedNames : List String}
  {quality : VariableQuality}

/-- A fault is counted at most once for each variable of its kind. -/
theorem faultCount_le_kindCount (h : ofContainer config container referencedNames = .ok quality)
    (fault : VariableFault) : quality.faultCount fault ≤ quality.kindCount fault.kind := by
  rw [ofContainer_eq] at h
  obtain ⟨judged, hjudged, rfl⟩ := Failure.map_eq_ok_iff.mp h
  have hvariables : judged.map (·.1) = container.userVariables :=
    Failure.map_eq_of_mapM hjudged fun _ _ => Variable.fst_eq_of_judge
  have hkind : ∀ pair ∈ judged, pair.2.any (·.fault == fault) = true →
      (pair.1.kind == fault.kind) = true := by
    intro pair hpair hfault
    obtain ⟨self, -, hself⟩ := Failure.exists_of_mem_mapM hjudged hpair
    obtain ⟨finding, hfinding, rfl⟩ := Failure.map_eq_ok_iff.mp hself
    cases finding with
    | none => cases hfault
    | some finding =>
      have hsame : finding.fault = fault := by simpa using hfault
      rw [beq_iff_eq, ← hsame]
      exact Variable.kind_of_finding? hfinding
  calc (judged.filterMap (·.2)).countP (·.fault == fault)
      = judged.countP fun pair => pair.2.any (·.fault == fault) := by
        rw [List.countP_filterMap]
        refine List.countP_congr fun pair _ => ?_
        cases pair.2 <;> simp
    _ ≤ judged.countP fun pair => pair.1.kind == fault.kind := List.countP_mono_left hkind
    _ = container.userVariables.countP (·.kind == fault.kind) := by
        rw [← hvariables, List.countP_map]
        rfl

/-- The numbers of variables of the kinds that occur add up to the number of all variables. -/
theorem sum_kindCount (quality : VariableQuality) :
    (((quality.userVariables.map (·.kind)).eraseDups).map quality.kindCount).sum =
      quality.total := by
  let kinds := quality.userVariables.map (·.kind)
  have hcount : quality.kindCount = fun kind => kinds.count kind := by
    funext kind
    rw [kindCount, List.count, List.countP_map]
    rfl
  have hsum : (kinds.dedup.map fun kind => kinds.count kind).sum = kinds.length :=
    List.sum_map_count_dedup_eq_length kinds
  calc (kinds.eraseDups.map quality.kindCount).sum
      = (kinds.dedup.map quality.kindCount).sum := ((eraseDups_perm_dedup kinds).map _).sum_eq
    _ = kinds.length := by rw [hcount, hsum]
    _ = quality.total := List.length_map ..

end VariableQuality

end TagAudit
