import TagAudit.Audit.Result
import TagAudit.Proofs.Consent.Issues
import TagAudit.Proofs.Tags.Issues
import TagAudit.Proofs.Triggers.Issues
import TagAudit.Proofs.Variables.Issues

/-!
# Outcomes of an audit

What each helper of an audit gives, as a function of the container and of the helpers that are
prevented. The graph that the analyses of triggers and variables read is the same whether it was
built before or has to be built again, so no other helper has a say in the result of one.
-/

namespace TagAudit

/-- A helper has a result if it is not prevented and does not fail. -/
theorem Outcome.result_of {α : Type} (helper : Helper) (prevented : Bool) (log : List LogRecord)
    (result : Except AnalysisError α) :
    (of helper prevented log result).result = if prevented then none else result.toOption := by
  cases prevented <;> cases result <;> rfl

namespace Audit

/-- The container that data are audited as: an empty one if they are none. -/
def containerOf (data : Json) : Container :=
  match Container.ofExport data with
  | .ok container => container
  | .error _ => {}

/-- An audit of data is an audit of their container, with a log and warnings that depend on the data
alone. -/
theorem exists_ofData_eq (data : Json) : ∃ readingLog warnings, ∀ config prevented,
    ofData config prevented data =
      ofContainer config prevented (containerOf data) readingLog warnings := by
  refine ⟨(ofData Config.default (fun _ => false) data).readingLog,
    (ofData Config.default (fun _ => false) data).warnings, fun config prevented => ?_⟩
  cases h : Container.ofExport data with
  | ok container => simp only [ofData, containerOf, h, ofContainer]
  | error fault => simp only [ofData, containerOf, h, ofContainer]

/-- The quality of triggers with its headline. -/
def triggerReport (config : Config) (container : Container) :
    Except AnalysisError (TriggerQuality × StatusMessage) :=
  (TriggerQuality.ofContainer container (graph config container).referencedTriggerIds).bind
    fun quality => (quality.message config).map (quality, ·)

/-- The quality of variables with its headline. -/
def variableReport (config : Config) (container : Container) :
    Except AnalysisError (VariableQuality × StatusMessage) :=
  (VariableQuality.ofContainer config container (graph config container).referencedNames).bind
    fun quality => (quality.message config).map (quality, ·)

/-- The quality in a report of triggers is that of the container. -/
theorem ofContainer_of_triggerReport {config : Config} {container : Container}
    {report : TriggerQuality × StatusMessage} (h : triggerReport config container = .ok report) :
    TriggerQuality.ofContainer container (graph config container).referencedTriggerIds =
      .ok report.1 := by
  obtain ⟨quality, hq, hr⟩ := Failure.bind_eq_ok_iff.mp h
  obtain ⟨message, -, rfl⟩ := Failure.map_eq_ok_iff.mp hr
  exact hq

/-- The quality in a report of variables is that of the container. -/
theorem ofContainer_of_variableReport {config : Config} {container : Container}
    {report : VariableQuality × StatusMessage} (h : variableReport config container = .ok report) :
    VariableQuality.ofContainer config container (graph config container).referencedNames =
      .ok report.1 := by
  obtain ⟨quality, hq, hr⟩ := Failure.bind_eq_ok_iff.mp h
  obtain ⟨message, -, rfl⟩ := Failure.map_eq_ok_iff.mp hr
  exact hq

/-- No helper of an audit without failures has failed. -/
theorem hasFailed_eq_false {audit : Audit} (h : audit.failures = []) (helper : Helper) :
    audit.hasFailed helper = false := by
  simpa using (List.filter_eq_nil_iff.mp h) helper helper.mem_all

section Results

variable (config : Config) (prevented : Helper → Bool) (data : Json)

/-- The container of an audit depends on the data alone. -/
@[simp] theorem container_ofData : (ofData config prevented data).container = containerOf data := by
  obtain ⟨readingLog, warnings, h⟩ := exists_ofData_eq data
  rw [h]
  rfl

@[simp] theorem config_ofData : (ofData config prevented data).config = config := by
  obtain ⟨readingLog, warnings, h⟩ := exists_ofData_eq data
  rw [h]
  rfl

/-- The usage graph. -/
theorem usage_ofData :
    (ofData config prevented data).usage.result =
      if prevented .usageGraph then none else some (graph config (containerOf data)) := by
  obtain ⟨readingLog, warnings, h⟩ := exists_ofData_eq data
  rw [h]
  exact Outcome.result_of ..

/-- The rules for tags and names. -/
theorem tagRules_ofData :
    (ofData config prevented data).tagRules.result =
      if prevented .tagRules then none
      else some (TagRules.ofContainer config (containerOf data)) := by
  obtain ⟨readingLog, warnings, h⟩ := exists_ofData_eq data
  rw [h]
  exact Outcome.result_of ..

/-- The coverage of consent. -/
theorem consent_ofData :
    (ofData config prevented data).consent.result =
      if prevented .consentMode then none
      else (ConsentCoverage.ofContainer (containerOf data)).toOption := by
  obtain ⟨readingLog, warnings, h⟩ := exists_ofData_eq data
  rw [h]
  exact Outcome.result_of ..

/-- The quality of triggers is that by the graph, whether there is one or not. -/
theorem triggerQuality_ofData :
    (ofData config prevented data).triggerQuality.result =
      if prevented .triggerQuality then none
      else (triggerReport config (containerOf data)).toOption := by
  obtain ⟨readingLog, warnings, h⟩ := exists_ofData_eq data
  rw [h]
  simp only [ofContainer, runTriggers, Outcome.result_of, triggerReport]
  cases prevented .usageGraph <;> rfl

/-- The quality of variables is that by the graph, whether there is one or not. -/
theorem variableQuality_ofData :
    (ofData config prevented data).variableQuality.result =
      if prevented .variableQuality then none
      else (variableReport config (containerOf data)).toOption := by
  obtain ⟨readingLog, warnings, h⟩ := exists_ofData_eq data
  rw [h]
  simp only [ofContainer, runVariables, Outcome.result_of, variableReport]
  cases prevented .usageGraph <;> rfl

/-- The security of scripts. -/
theorem security_ofData :
    (ofData config prevented data).security.result =
      if prevented .htmlSecurity then none
      else (ScriptSecurity.ofContainer config (containerOf data)).toOption := by
  obtain ⟨readingLog, warnings, h⟩ := exists_ofData_eq data
  rw [h]
  exact Outcome.result_of ..

/-- The unresolved references, of which there are none without a graph. -/
theorem unresolved_ofData :
    (ofData config prevented data).unresolved.result =
      if prevented .usageGraph then some []
      else if prevented .unresolvedReferences then none
      else some (UsageGraph.unresolvedIssues (containerOf data)
        (graph config (containerOf data))) := by
  obtain ⟨readingLog, warnings, h⟩ := exists_ofData_eq data
  rw [h]
  simp only [ofContainer, Outcome.result_of]
  cases prevented .usageGraph with
  | true => rfl
  | false => exact Outcome.result_of ..

/-- The suggestions for the migration of obsolete tags. -/
theorem migration_ofData :
    (ofData config prevented data).migration.result =
      if prevented .migrationSuggestions then none
      else some (MigrationSuggestion.ofContainer (containerOf data)) := by
  obtain ⟨readingLog, warnings, h⟩ := exists_ofData_eq data
  rw [h]
  exact Outcome.result_of ..

end Results

section Sources

variable {config : Config} {prevented : Helper → Bool} {data : Json}

/-- Rules that an audit has are the rules for its container. -/
theorem eq_of_tagRules {rules : TagRules}
    (h : (ofData config prevented data).tagRules.result = some rules) :
    TagRules.ofContainer config (containerOf data) = rules := by
  rw [tagRules_ofData] at h
  split at h
  · cases h
  · exact Option.some.inj h

/-- A coverage that an audit has is the coverage of its container. -/
theorem eq_of_consent {coverage : ConsentCoverage}
    (h : (ofData config prevented data).consent.result = some coverage) :
    ConsentCoverage.ofContainer (containerOf data) = .ok coverage := by
  rw [consent_ofData] at h
  split at h
  · cases h
  · exact Failure.toOption_eq_some_iff.mp h

/-- A quality of triggers that an audit has is that of its container. -/
theorem eq_of_triggerQuality {report : TriggerQuality × StatusMessage}
    (h : (ofData config prevented data).triggerQuality.result = some report) :
    TriggerQuality.ofContainer (containerOf data)
      (graph config (containerOf data)).referencedTriggerIds = .ok report.1 := by
  rw [triggerQuality_ofData] at h
  split at h
  · cases h
  · exact ofContainer_of_triggerReport (Failure.toOption_eq_some_iff.mp h)

/-- A quality of variables that an audit has is that of its container. -/
theorem eq_of_variableQuality {report : VariableQuality × StatusMessage}
    (h : (ofData config prevented data).variableQuality.result = some report) :
    VariableQuality.ofContainer config (containerOf data)
      (graph config (containerOf data)).referencedNames = .ok report.1 := by
  rw [variableQuality_ofData] at h
  split at h
  · cases h
  · exact ofContainer_of_variableReport (Failure.toOption_eq_some_iff.mp h)

/-- A security of scripts that an audit has is that of its container. -/
theorem eq_of_security {security : ScriptSecurity}
    (h : (ofData config prevented data).security.result = some security) :
    ScriptSecurity.ofContainer config (containerOf data) = .ok security := by
  rw [security_ofData] at h
  split at h
  · cases h
  · exact Failure.toOption_eq_some_iff.mp h

/-- Unresolved references that an audit has are those of its container. -/
theorem mem_unresolvedIssues_of_unresolved {unresolved : List Issue} {issue : Issue}
    (h : (ofData config prevented data).unresolved.result = some unresolved)
    (hi : issue ∈ unresolved) :
    issue ∈ UsageGraph.unresolvedIssues (containerOf data) (graph config (containerOf data)) := by
  rw [unresolved_ofData] at h
  split at h
  · cases h
    cases hi
  · split at h
    · cases h
    · cases h
      exact hi

/-- Unresolved references that an audit has are all of that category. -/
theorem category_of_mem_unresolved {unresolved : List Issue} {issue : Issue}
    (h : (ofData config prevented data).unresolved.result = some unresolved)
    (hi : issue ∈ unresolved) : issue.category = .unresolvedReference := by
  have hissues := mem_unresolvedIssues_of_unresolved h hi
  obtain ⟨reference, -, hr⟩ := List.mem_flatMap.mp hissues
  obtain ⟨referrer, -, rfl⟩ := List.mem_map.mp hr
  rfl

end Sources

/-- A container with a paused obsolete tag, a page view and a data layer variable. -/
def pausedTagExport : Json := .object [
  ("tag", .array [
    .object [("tagId", .string "1"), ("type", .string "ua"), ("paused", .bool true)]]),
  ("trigger", .array [.object [("triggerId", .string "2"), ("type", .string "PAGEVIEW")]]),
  ("variable", .array [.object [("variableId", .string "3"), ("type", .string "v")]])]

/-- No helper fails on it. -/
theorem complete_pausedTagExport :
    (ofData Config.default (fun _ => false) pausedTagExport).failures = [] := by
  decide +kernel

end Audit

end TagAudit
