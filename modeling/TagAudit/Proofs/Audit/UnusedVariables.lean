import TagAudit.Proofs.Audit.Robustness
import TagAudit.Proofs.Config.Range
import TagAudit.Proofs.Usage.Placeholders
import TagAudit.Proofs.Usage.Queries

/-!
# Unused variables

The names in placeholders and the identifiers of the triggers that something refers to are kept
together. So a variable is found unused exactly if its name is neither: one that is named like a
trigger in use is taken for used, though no text has a placeholder for it.
-/

namespace TagAudit

namespace Container

/-- An entity of a container has a placeholder for a name in a text that is at most so deep. -/
def HasPlaceholder (container : Container) (depth : Nat) (name : String) : Prop :=
  ∃ kind, ∃ raw ∈ container.raws kind, Placeholder.NamedWithin depth raw name

/-- The names with placeholders are those that are collected from some entity. -/
theorem hasPlaceholder_iff {container : Container} {depth : Nat} {name : String} :
    container.HasPlaceholder depth name ↔
      ∃ kind, ∃ entity ∈ UsageGraph.entitiesOf container kind,
        name ∈ Placeholder.collect depth entity.2.2 := by
  refine exists_congr fun kind => ?_
  have hraws : container.raws kind =
      (UsageGraph.entitiesOf container kind).map fun entity => entity.2.2 := by
    cases kind <;> simp [raws, UsageGraph.entitiesOf, Function.comp_def]
  simp only [hraws, List.mem_map, exists_exists_and_eq_and, Placeholder.mem_collect_iff]

instance (container : Container) (depth : Nat) (name : String) :
    Decidable (container.HasPlaceholder depth name) :=
  decidable_of_iff (UsageGraph.searchOrder.any fun kind =>
      (UsageGraph.entitiesOf container kind).any fun entity =>
        (Placeholder.collect depth entity.2.2).contains name) <| by
    have hkinds : ∀ kind, kind ∈ UsageGraph.searchOrder := by
      intro kind
      cases kind <;> decide
    simp [hasPlaceholder_iff, hkinds]

end Container

/-- No pattern of a table up to the first faulty one is beyond the checker, where groups are nested
within the limit of recursion. -/
def Variable.HasReadablePatterns (self : Variable) : Prop :=
  self.kind = .regexTable →
    Failure.SoundUntil (fun pattern => (Regex.scriptFault? pattern).isOk = false)
      (fun pattern => ∃ fault, Regex.scriptFault? pattern = .ok (some fault)) self.patterns

namespace VariableQuality

variable {config : Config} {container : Container} {referencedNames : List String}
  {quality : VariableQuality}

/-- The unused issue of a variable is there unless its name is referenced. -/
private theorem filter_issuesOfVariable (duplicates : List (String × String)) (self : Variable)
    (finding : Option VariableFinding) :
    (issuesOfVariable config referencedNames duplicates self finding).filter
        (·.category == .variableUnused) =
      if referencedNames.contains self.name then [] else [unusedIssue config self] := by
  have hfault : (finding.map (findingIssue config self)).toList.filter
      (·.category == .variableUnused) = [] := by
    cases finding <;> rfl
  have hduplicate : ((firstOf? duplicates self.id).map (duplicateIssue config self)).toList.filter
      (·.category == .variableUnused) = [] := by
    cases firstOf? duplicates self.id <;> rfl
  simp only [issuesOfVariable, List.filter_append, hfault, hduplicate, apply_ite (List.filter _)]
  simp [unusedIssue, variableIssue]

/-- The issues for unused variables are those of the variables whose names are not referenced, in
order. -/
theorem filter_variableUnused_issues
    (h : ofContainer config container referencedNames = .ok quality) :
    quality.issues.filter (·.category == .variableUnused) =
      (container.userVariables.filter fun self => self.name ∉ referencedNames).map
        (unusedIssue config) := by
  rw [ofContainer_eq] at h
  obtain ⟨judged, hj, rfl⟩ := Failure.map_eq_ok_iff.mp h
  rw [← Failure.map_eq_of_mapM hj fun _ _ => Variable.fst_eq_of_judge, List.filter_map,
    List.map_map]
  refine (Issue.filter_flatMap_eq_map _ fun judged =>
    filter_issuesOfVariable _ judged.1 judged.2).trans ?_
  simp [Function.comp_def]

end VariableQuality

namespace Audit

/-- The analysis of variables finds unused exactly those whose names are not used. -/
structure FindsUnused (config : Config) (container : Container) (used : String → Prop)
    [DecidablePred used] : Prop where
  /-- Under thresholds that are numbers and weights that can be computed with, variables with patterns
  that can be read have a report. -/
  answered : (∀ severity, (config.statusThresholds severity).number?.isSome = true) →
    config.Representable →
    (∀ self ∈ container.userVariables, self.HasReadablePatterns) →
    ∃ report, variableReport config container = .ok report
  /-- Each unused variable has one issue for that, in the order of the container. -/
  issues : ∀ report, variableReport config container = .ok report →
    report.1.issues.filter (·.category == .variableUnused) =
      (container.userVariables.filter fun self => ¬ used self.name).map
        (VariableQuality.unusedIssue config)
  /-- The unused variables are counted. -/
  counted : ∀ report, variableReport config container = .ok report →
    report.1.unused = container.userVariables.countP fun self => ¬ used self.name

/-- The names that count as used are those in placeholders and the triggers that are referred to. -/
theorem mem_referencedNames_graph {config : Config} {container : Container} {name : String} :
    name ∈ (graph config container).referencedNames ↔
      container.HasPlaceholder config.maxParameterDepth name ∨
        UsageGraph.RefersToTrigger container name := by
  rw [graph, UsageGraph.mem_referencedNames_ofContainer, Container.hasPlaceholder_iff]

/-- Used are the names in placeholders and the identifiers of triggers that are referred to. -/
theorem findsUnused (config : Config) (container : Container) :
    FindsUnused config container fun name =>
      container.HasPlaceholder config.maxParameterDepth name ∨
        UsageGraph.RefersToTrigger container name where
  answered hthresholds _ hpatterns := by
    refine Failure.exists_of_isOk ?_
    rw [isOk_variableReport hthresholds, VariableQuality.isOk_ofContainer, List.all_eq_true]
    exact fun self hself => self.isOk_judge.mpr (hpatterns self hself)
  issues report h := by
    rw [VariableQuality.filter_variableUnused_issues (ofContainer_of_variableReport h)]
    refine congrArg _ (List.filter_congr fun self _ => decide_eq_decide.mpr ?_)
    exact not_congr mem_referencedNames_graph
  counted report h := by
    rw [VariableQuality.unused_eq (ofContainer_of_variableReport h)]
    refine List.countP_congr fun self _ => ?_
    simp [mem_referencedNames_graph]

/-- A container with a variable that is named like the trigger that its tag fires on. -/
def triggerNameExport : Json := .object [
  ("tag", .array [.object [("tagId", .string "1"), ("firingTriggerId", .string "7")]]),
  ("variable", .array [.object [("variableId", .string "3"), ("name", .string "7"),
    ("type", .string "c")]])]

/-- The variable is not found unused, though there is no placeholder for its name: placeholders
alone do not tell the unused variables. -/
theorem not_findsUnused_triggerNameExport :
    (∀ self ∈ (containerOf triggerNameExport).userVariables,
      ¬ (containerOf triggerNameExport).HasPlaceholder Config.default.maxParameterDepth
        self.name) ∧
    ((variableReport Config.default (containerOf triggerNameExport)).map fun report =>
      (report.1.unused, report.1.issues)) = .ok (0, []) ∧
    ¬ FindsUnused Config.default (containerOf triggerNameExport) fun name =>
      (containerOf triggerNameExport).HasPlaceholder Config.default.maxParameterDepth name := by
  have hreport : ((variableReport Config.default (containerOf triggerNameExport)).map fun report =>
      (report.1.unused, report.1.issues)) = .ok (0, []) := by
    decide +kernel
  refine ⟨by decide +kernel, hreport, fun h => ?_⟩
  obtain ⟨report, hr, he⟩ := Failure.map_eq_ok_iff.mp hreport
  have hcount := h.counted report hr
  rw [(Prod.mk.inj he).1] at hcount
  revert hcount
  decide +kernel

end Audit

end TagAudit
