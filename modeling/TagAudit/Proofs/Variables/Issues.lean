import TagAudit.Proofs.Category
import TagAudit.Proofs.Failure
import TagAudit.Variables.Quality

/-!
# Issues of variables

What the quality of variables is made of when every variable can be judged, and how many issues of
each category it has: one for each variable with the fault, unused or a duplicate.
-/

namespace TagAudit

open Issue

namespace Variable

/-- A variable with what is wrong with it by itself. -/
def judge (self : Variable) : Except AnalysisError (Variable × Option VariableFinding) :=
  self.finding?.map (self, ·)

/-- Judging keeps the variable. -/
theorem fst_eq_of_judge {self : Variable} {judged : Variable × Option VariableFinding}
    (h : self.judge = .ok judged) : judged.1 = self := by
  obtain ⟨_, -, rfl⟩ := Failure.map_eq_ok_iff.mp h
  rfl

end Variable

namespace VariableQuality

/-- The quality of variables that were judged. -/
def ofJudged (config : Config) (container : Container) (referencedNames : List String)
    (judged : List (Variable × Option VariableFinding)) : VariableQuality where
  userVariables := container.userVariables
  findings := judged.filterMap (·.2)
  unused := container.userVariables.countP fun self => !referencedNames.contains self.name
  duplicates := duplicatesAmong container.userVariables
  issues := judged.flatMap fun (self, finding) =>
    issuesOfVariable config referencedNames (duplicatesAmong container.userVariables) self finding

/-- The quality of a container is that of its judged variables. -/
theorem ofContainer_eq (config : Config) (container : Container) (referencedNames : List String) :
    ofContainer config container referencedNames =
      (container.userVariables.mapM Variable.judge).map
        (ofJudged config container referencedNames) := by
  change ((container.userVariables.mapM Variable.judge).bind fun judged =>
    .ok (ofJudged config container referencedNames judged)) = _
  rfl

/-- Does a judged variable break the rule that a category is for? -/
def breaks (referencedNames : List String) (duplicates : List (String × String))
    (judged : Variable × Option VariableFinding) : Category → Bool
  | .variableFault fault => judged.2.any (·.fault == fault)
  | .variableUnused => !referencedNames.contains judged.1.name
  | .variableDuplicate => (firstOf? duplicates judged.1.id).isSome
  | _ => false

/-- A variable has one issue for each rule that it breaks. -/
theorem countOf_issuesOfVariable (category : Category) (config : Config)
    (referencedNames : List String) (duplicates : List (String × String)) (self : Variable)
    (finding : Option VariableFinding) :
    countOf category (issuesOfVariable config referencedNames duplicates self finding) =
      (breaks referencedNames duplicates (self, finding) category).toNat := by
  have hfault : countOf category (finding.map (findingIssue config self)).toList =
      (finding.any fun finding =>
        decide (Category.variableFault finding.fault = category)).toNat := by
    cases finding with
    | none => rfl
    | some finding => exact countOf_ite_singleton category true _
  have hdup : countOf category
      ((firstOf? duplicates self.id).map (duplicateIssue config self)).toList =
      ((firstOf? duplicates self.id).isSome &&
        decide (Category.variableDuplicate = category)).toNat :=
    countOf_toList_map category _ fun _ => rfl
  simp only [issuesOfVariable, countOf_append, countOf_ite_nil, hfault, hdup]
  cases category <;> cases finding <;> simp [breaks, unusedIssue, variableIssue, beq_eq_decide]

section OfContainer

variable {config : Config} {container : Container} {referencedNames : List String}
  {quality : VariableQuality}

theorem userVariables_eq (h : ofContainer config container referencedNames = .ok quality) :
    quality.userVariables = container.userVariables := by
  rw [ofContainer_eq] at h
  obtain ⟨judged, -, rfl⟩ := Failure.map_eq_ok_iff.mp h
  rfl

theorem unused_eq (h : ofContainer config container referencedNames = .ok quality) :
    quality.unused =
      container.userVariables.countP fun self => !referencedNames.contains self.name := by
  rw [ofContainer_eq] at h
  obtain ⟨judged, -, rfl⟩ := Failure.map_eq_ok_iff.mp h
  rfl

/-- The issues of a category are as many as the variables that break its rule, in a list of
variables with findings that keeps their order and all findings. -/
theorem countOf_issues (h : ofContainer config container referencedNames = .ok quality) :
    ∃ judged : List (Variable × Option VariableFinding),
      judged.map (·.1) = quality.userVariables ∧ judged.filterMap (·.2) = quality.findings ∧
      ∀ category, countOf category quality.issues =
        judged.countP (breaks referencedNames quality.duplicates · category) := by
  rw [ofContainer_eq] at h
  obtain ⟨judged, hj, rfl⟩ := Failure.map_eq_ok_iff.mp h
  refine ⟨judged, Failure.map_eq_of_mapM hj fun _ _ => Variable.fst_eq_of_judge, rfl,
    fun category => ?_⟩
  exact countOf_flatMap_eq_countP category fun (self, finding) _ =>
    countOf_issuesOfVariable category config referencedNames _ self finding

/-- Every issue is of a category that these rules are for. -/
theorem finder_of_mem_issues (h : ofContainer config container referencedNames = .ok quality)
    {issue : Issue} (hi : issue ∈ quality.issues) :
    issue.category.finder = .variableQuality := by
  obtain ⟨judged, -, -, hc⟩ := countOf_issues h
  have hpos : 0 < countOf issue.category quality.issues :=
    List.countP_pos_iff.mpr ⟨issue, hi, beq_self_eq_true _⟩
  rw [hc] at hpos
  revert hpos
  cases issue.category <;> simp [breaks, Category.finder]

/-- The variables with a fault are counted by their issues. -/
theorem countOf_variableFault_issues
    (h : ofContainer config container referencedNames = .ok quality) (fault : VariableFault) :
    countOf (.variableFault fault) quality.issues = quality.faultCount fault := by
  obtain ⟨judged, -, hf, hc⟩ := countOf_issues h
  rw [hc, faultCount, ← hf, List.countP_filterMap]
  refine List.countP_congr fun judged _ => ?_
  cases hj : judged.2 <;> simp [breaks, hj]

/-- The faults of all kinds are counted by the issues of all kinds of faults. -/
theorem foldr_countOf_variableFault_issues
    (h : ofContainer config container referencedNames = .ok quality) :
    VariableFault.all.foldr
        (fun fault total => countOf (.variableFault fault) quality.issues + total) 0 =
      quality.faultTotal := by
  simp only [countOf_variableFault_issues h, faultTotal]

/-- The unused variables are counted by their issues. -/
theorem countOf_variableUnused_issues
    (h : ofContainer config container referencedNames = .ok quality) :
    countOf .variableUnused quality.issues = quality.unused := by
  obtain ⟨judged, hj, -, hc⟩ := countOf_issues h
  rw [hc, unused_eq h, ← userVariables_eq h, ← hj, List.countP_map]
  rfl

/-- There are as many issues of duplicates as variables that are taken for one. -/
theorem countOf_variableDuplicate_issues
    (h : ofContainer config container referencedNames = .ok quality) :
    countOf .variableDuplicate quality.issues =
      container.userVariables.countP fun self => (firstOf? quality.duplicates self.id).isSome := by
  obtain ⟨judged, hj, -, hc⟩ := countOf_issues h
  rw [hc, ← userVariables_eq h, ← hj, List.countP_map]
  rfl

end OfContainer

end VariableQuality

end TagAudit
