import TagAudit.Consent.Coverage
import TagAudit.Proofs.Category
import TagAudit.Proofs.Failure

/-!
# Issues of consent coverage

A tag has an issue exactly if its state is not the good one, so the coverage counts as many
problems as it has issues.
-/

namespace TagAudit

open Issue

/-- A verdict has a severity exactly if it finds something missing. -/
theorem ConsentVerdict.isSome_severity_ofDeclaration (tag : Tag)
    (declaration : ConsentDeclaration) :
    (ofDeclaration tag declaration).severity.isSome =
      ((ofDeclaration tag declaration).state == .missing ||
        (ofDeclaration tag declaration).state == .notConfigured) := by
  unfold ofDeclaration
  extract_lets required inferred present missing verdict
  split
  · rfl
  · split
    · rfl
    · split <;> rfl

namespace ConsentCoverage

/-- The verdicts of a coverage are verdicts on declarations of tags. -/
theorem exists_of_mem_verdicts {container : Container} {coverage : ConsentCoverage}
    (h : ofContainer container = .ok coverage) {verdict : ConsentVerdict}
    (hv : verdict ∈ coverage.verdicts) :
    ∃ tag ∈ container.tags, ∃ declaration,
      ConsentVerdict.ofDeclaration tag declaration = verdict := by
  obtain ⟨verdicts, hm, rfl⟩ := Failure.map_eq_ok_iff.mp h
  obtain ⟨tag, ht, he⟩ := Failure.exists_of_mem_mapM hm hv
  obtain ⟨declaration, -, hd⟩ := Failure.map_eq_ok_iff.mp he
  exact ⟨tag, List.mem_of_mem_filter ht, declaration, hd⟩

/-- Every issue is of the category for consent. -/
theorem category_of_mem_issues {coverage : ConsentCoverage} {issue : Issue}
    (hi : issue ∈ coverage.issues) : issue.category = .consentMissing := by
  obtain ⟨verdict, -, he⟩ := List.mem_filterMap.mp hi
  obtain ⟨severity, -, rfl⟩ := Option.map_eq_some_iff.mp he
  rfl

/-- The problems are counted by their issues. -/
theorem countOf_consentMissing_issues {container : Container} {coverage : ConsentCoverage}
    (h : ofContainer container = .ok coverage) :
    countOf .consentMissing coverage.issues = coverage.problems := by
  have hall : countOf .consentMissing coverage.issues = coverage.issues.length :=
    List.countP_eq_length.mpr fun issue hi => by simp [category_of_mem_issues hi]
  have hsome : coverage.issues.length = coverage.verdicts.countP (·.issue?.isSome) := by
    rw [issues, List.length_filterMap_eq_countP]
  rw [hall, hsome, problems, count, count]
  have hv : ∀ verdict ∈ coverage.verdicts, verdict.issue?.isSome =
      (verdict.state == .missing || verdict.state == .notConfigured) := by
    intro verdict hm
    obtain ⟨tag, -, declaration, rfl⟩ := exists_of_mem_verdicts h hm
    rw [ConsentVerdict.issue?, Option.isSome_map]
    exact ConsentVerdict.isSome_severity_ofDeclaration tag declaration
  generalize coverage.verdicts = verdicts at hv
  induction verdicts with
  | nil => rfl
  | cons verdict rest ih =>
    have hfirst := hv verdict (List.mem_cons_self ..)
    have hrest := ih fun v hm => hv v (List.mem_cons_of_mem _ hm)
    simp only [List.countP_cons, hrest, hfirst]
    cases verdict.state <;> simp <;> omega

end ConsentCoverage

end TagAudit
