import Mathlib.Data.List.Basic
import Mathlib.Data.List.Induction
import TagAudit.Severity

/-!
# The worst of some severities

A status is the worst of some severities if it is one of them and no other is more serious, or if
there are none and all is well. It is found by going through the severities one by one, and also by
asking for each severity, the most serious one first, whether it occurs.
-/

namespace TagAudit.Severity

/-- The status is the greatest of the severities; all is well where there are none. -/
def IsWorst (severities : List Severity) : Status → Prop
  | none => severities = []
  | some severity => severity ∈ severities ∧ ∀ other ∈ severities, other.rank ≤ severity.rank

/-- A name is known exactly as the name of its severity. -/
theorem ofName?_eq_some_iff {name : String} {severity : Severity} :
    ofName? name = some severity ↔ name = severity.name := by
  constructor
  · intro h
    have hname := List.find?_some h
    exact (beq_iff_eq.mp hname).symm
  · rintro rfl
    exact ofName?_name severity

/-- Nothing is more serious than a critical problem. -/
theorem rank_le_critical (severity : Severity) : severity.rank ≤ critical.rank := by
  cases severity <;> decide

/-- A search through the severities finds the worst one. -/
theorem isWorst_worst (severities : List Severity) : IsWorst severities (worst severities) := by
  induction severities using List.reverseRecOn with
  | nil => rfl
  | append_singleton severities severity ih =>
    rw [worst, worstBy, List.foldl_concat, ← worstBy, ← worst]
    cases hw : worst severities with
    | none =>
      rw [hw, IsWorst] at ih
      simp [IsWorst, ih]
    | some current =>
      obtain ⟨hmem, hmax⟩ := (hw ▸ ih : IsWorst severities (some current))
      dsimp only
      split
      next hlt =>
        refine ⟨List.mem_append_right _ (List.mem_singleton_self _), fun other hother => ?_⟩
        rcases List.mem_append.mp hother with hother | hother
        · exact Nat.le_trans (hmax other hother) (Nat.le_of_lt hlt)
        · exact List.mem_singleton.mp hother ▸ Nat.le_refl _
      next hle =>
        refine ⟨List.mem_append_left _ hmem, fun other hother => ?_⟩
        rcases List.mem_append.mp hother with hother | hother
        · exact hmax other hother
        · exact List.mem_singleton.mp hother ▸ Nat.le_of_not_lt hle

/-- The first question with the answer yes tells the worst severity, if the questions ask for each
severity whether it occurs. The last one need only do so where nothing more serious occurs. -/
theorem isWorst_ite {severities : List Severity} {p q r : Prop} [Decidable p] [Decidable q]
    [Decidable r] (hcritical : p ↔ critical ∈ severities) (hmajor : q ↔ major ∈ severities)
    (hminor : ¬ p → ¬ q → (r ↔ minor ∈ severities)) :
    IsWorst severities
      (if p then some critical else if q then some major else if r then some minor else none) := by
  by_cases hp : p
  · rw [if_pos hp]
    exact ⟨hcritical.mp hp, fun other _ => rank_le_critical other⟩
  have hne : critical ∉ severities := fun hmem => hp (hcritical.mpr hmem)
  rw [if_neg hp]
  by_cases hq : q
  · rw [if_pos hq]
    refine ⟨hmajor.mp hq, fun other hother => ?_⟩
    cases other with
    | critical => exact absurd hother hne
    | _ => decide
  have hne' : major ∉ severities := fun hmem => hq (hmajor.mpr hmem)
  rw [if_neg hq]
  by_cases hr : r
  · rw [if_pos hr]
    refine ⟨(hminor hp hq).mp hr, fun other hother => ?_⟩
    cases other with
    | minor => exact Nat.le_refl _
    | major => exact absurd hother hne'
    | critical => exact absurd hother hne
  · rw [if_neg hr]
    refine List.eq_nil_iff_forall_not_mem.mpr fun other hother => ?_
    cases other with
    | minor => exact hr ((hminor hp hq).mpr hother)
    | major => exact hne' hother
    | critical => exact hne hother

end TagAudit.Severity
