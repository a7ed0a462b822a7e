import TagAudit.Proofs.Audit.Issues
import TagAudit.Proofs.TagOrder.Export
import TagAudit.Proofs.TagOrder.References

/-!
# Audits of tags in another order

Audits of a container and of the same container with its tags in another order: each helper fails
for both or for neither, and otherwise finds the same. So the issues are alike, and the scores, the
plans, the counts and the distributions are equal.
-/

namespace TagAudit

namespace Audit

/-- Texts in another order are as frequent. -/
theorem frequencies_eq_of_perm {texts others : List String} (h : texts.Perm others) :
    frequencies texts = frequencies others := by
  have hsorted := mergeSort_eq_of_perm id (fun _ _ _ _ he => he)
    (eraseDups_perm_of_mem_iff fun text => h.mem_iff (a := text))
  rw [frequencies, frequencies]
  exact (congrArg _ hsorted).trans (List.map_congr_left fun text _ => by rw [h.count_eq])

/-- Audits of a container with its tags in one order and in another. -/
structure Alike (a b : Audit) : Prop where
  config : a.config = b.config
  tags : a.container.tags.Perm b.container.tags
  triggers : a.container.triggers = b.container.triggers
  userVariables : a.container.userVariables = b.container.userVariables
  builtinNames : a.container.builtinNames = b.container.builtinNames
  usage : a.usage.failed = b.usage.failed
  tagRules : Option.Rel TagRules.Alike a.tagRules.result b.tagRules.result
  consent : Option.Rel ConsentCoverage.Alike a.consent.result b.consent.result
  triggerQuality : Option.Rel (fun x y => x.1.Alike y.1 ∧ x.2 = y.2)
    a.triggerQuality.result b.triggerQuality.result
  variableQuality : a.variableQuality.result = b.variableQuality.result
  security : Option.Rel ScriptSecurity.Alike a.security.result b.security.result
  unresolved : Option.Rel Issue.Alike a.unresolved.result b.unresolved.result
  migration : a.migration.failed = b.migration.failed

/-- Agreement is kept where a helper is prevented. -/
private theorem rel_unless {α β : Type} {R : α → β → Prop} {x : Option α} {y : Option β}
    (prevented : Bool) (h : Option.Rel R x y) :
    Option.Rel R (if prevented then none else x) (if prevented then none else y) := by
  cases prevented
  · exact h
  · exact .none

/-- Audits of exports that are read as a container with its tags in one order and in another. -/
theorem alike_ofData (config : Config) (prevented : Helper → Bool) {data other : Json}
    {tags : List Tag} (hperm : (containerOf data).tags.Perm tags)
    (hother : containerOf other = (containerOf data).withTags tags) :
    (ofData config prevented data).Alike (ofData config prevented other) where
  config := by rw [config_ofData, config_ofData]
  tags := by
    rw [container_ofData, container_ofData, hother]
    exact hperm
  triggers := by
    rw [container_ofData, container_ofData, hother]
    rfl
  userVariables := by
    rw [container_ofData, container_ofData, hother]
    rfl
  builtinNames := by
    rw [container_ofData, container_ofData, hother]
    rfl
  usage := by
    rw [Outcome.failed, Outcome.failed, usage_ofData, usage_ofData]
    cases prevented .usageGraph <;> rfl
  tagRules := by
    rw [tagRules_ofData, tagRules_ofData, hother]
    exact rel_unless _ (.some (TagRules.alike_withTags hperm))
  consent := by
    rw [consent_ofData, consent_ofData, hother]
    exact rel_unless _ (ConsentCoverage.alike_withTags hperm)
  triggerQuality := by
    rw [triggerQuality_ofData, triggerQuality_ofData, hother, triggerReport, triggerReport]
    simp only [Failure.toOption_bind, Failure.toOption_map]
    have hreferenced := UsageGraph.mem_referencedTriggerIds_withTags hperm config.maxParameterDepth
    refine rel_unless _ (Failure.rel_bind (TriggerQuality.alike_withTags hperm hreferenced) ?_)
    intro quality reordered hq
    rw [hq.message config]
    exact Failure.rel_map_self (fun _ => ⟨hq, rfl⟩) _
  variableQuality := by
    have hreferenced := UsageGraph.mem_referencedNames_withTags hperm config.maxParameterDepth
    rw [variableQuality_ofData, variableQuality_ofData, hother, variableReport, variableReport,
      graph, graph, VariableQuality.ofContainer_withTags hreferenced]
  security := by
    rw [security_ofData, security_ofData, hother]
    exact rel_unless _ (ScriptSecurity.alike_withTags hperm)
  unresolved := by
    rw [unresolved_ofData, unresolved_ofData, hother]
    cases prevented .usageGraph with
    | true => exact .some (.refl _)
    | false =>
      refine rel_unless _ (.some ?_)
      exact UsageGraph.unresolvedIssues_alike hperm config.maxParameterDepth
  migration := by
    rw [Outcome.failed, Outcome.failed, migration_ofData, migration_ofData]
    cases prevented .migrationSuggestions <;> rfl

/-- Alike results have alike issues. -/
theorem issuesFrom_alike {α β : Type} {R : α → β → Prop} {x : Outcome α} {y : Outcome β}
    {f : α → List Issue} {g : β → List Issue} (h : Option.Rel R x.result y.result)
    (hfg : ∀ a b, R a b → Issue.Alike (f a) (g b)) :
    Issue.Alike (issuesFrom x f) (issuesFrom y g) := by
  unfold issuesFrom
  generalize x.result = o, y.result = p at h
  cases h with
  | none => exact .refl []
  | some hab => simpa using hfg _ _ hab

/-- Alike results give the same number. -/
theorem countFrom_eq {α β : Type} {R : α → β → Prop} {x : Outcome α} {y : Outcome β} (f : α → Nat)
    (g : β → Nat) (h : Option.Rel R x.result y.result) (hfg : ∀ a b, R a b → f a = g b) :
    countFrom x f = countFrom y g := by
  rw [countFrom, countFrom, Failure.map_eq_of_rel h hfg]

namespace Alike

variable {a b : Audit} (h : a.Alike b)

include h

/-- The same helpers fail. -/
theorem failures : a.failures = b.failures := by
  refine List.filter_congr fun helper _ => ?_
  cases helper with
  | usageGraph => exact h.usage
  | tagRules => exact Failure.isNone_eq_of_rel h.tagRules
  | consentMode => exact Failure.isNone_eq_of_rel h.consent
  | triggerQuality => exact Failure.isNone_eq_of_rel h.triggerQuality
  | variableQuality => exact congrArg Option.isNone h.variableQuality
  | htmlSecurity => exact Failure.isNone_eq_of_rel h.security
  | unresolvedReferences => exact Failure.isNone_eq_of_rel h.unresolved
  | migrationSuggestions => exact h.migration

/-- The issues are alike. -/
theorem issues : Issue.Alike a.issues b.issues := by
  unfold Audit.issues
  refine .append (.append (.append (.append (.append ?_ ?_) ?_) ?_) ?_) ?_
  · exact issuesFrom_alike h.tagRules fun _ _ hr => hr.issues
  · exact issuesFrom_alike h.consent fun _ _ hc => ConsentCoverage.Alike.issues hc
  · exact issuesFrom_alike h.triggerQuality fun _ _ hq => List.Perm.of_eq hq.1.issues
  · rw [issuesFrom, issuesFrom, h.variableQuality]
    exact .refl _
  · exact issuesFrom_alike h.security fun _ _ hs => hs.issues
  · exact issuesFrom_alike h.unresolved fun _ _ hu => hu

/-- The names of triggers and variables have the same issues. -/
theorem naming : issuesFrom a.tagRules TagRules.triggerNaming =
      issuesFrom b.tagRules TagRules.triggerNaming ∧
    issuesFrom a.tagRules TagRules.variableNaming =
      issuesFrom b.tagRules TagRules.variableNaming := by
  unfold issuesFrom
  have hrules := h.tagRules
  generalize a.tagRules.result = o, b.tagRules.result = p at hrules
  cases hrules with
  | none => exact ⟨rfl, rfl⟩
  | some hr => simp [hr.triggerNaming, hr.variableNaming]

theorem value? {α : Type} [Scalar α] (dimension : Dimension) :
    (a.value? dimension : Option α) = b.value? dimension := by
  cases dimension with
  | tagCleanliness =>
    exact Failure.map_eq_of_rel h.tagRules fun _ _ hr => by rw [hr.total, hr.clean]
  | triggerCleanliness =>
    refine Failure.map_eq_of_rel h.triggerQuality fun x y hq => ?_
    -- an identifier is flagged by the quality of triggers or by the names of triggers
    have hflagged : Issue.Alike (x.1.issues ++ issuesFrom a.tagRules TagRules.triggerNaming)
        (y.1.issues ++ issuesFrom b.tagRules TagRules.triggerNaming) :=
      .append (List.Perm.of_eq hq.1.issues) (h.naming.1 ▸ .refl _)
    simp only [hflagged.any_entityId_eq, h.triggers]
  | variableCleanliness =>
    simp only [Audit.value?, h.variableQuality, h.naming.2, h.userVariables]
  | consent =>
    exact Failure.map_eq_of_rel h.consent fun _ _ hc => by rw [ConsentCoverage.Alike.score hc]
  | triggerQuality =>
    exact Failure.map_eq_of_rel h.triggerQuality fun _ _ hq => by
      simp only [hq.1.score, h.config]
  | variableQuality => simp only [Audit.value?, h.variableQuality, h.config]
  | htmlSecurity =>
    exact Failure.map_eq_of_rel h.security fun _ _ hs => by rw [hs.score, h.config]

theorem score : a.score = b.score := by
  unfold Audit.score
  rw [h.config]
  exact congrArg _ (funext fun dimension => h.value? dimension)

theorem problems (kind : ActionKind) : a.problems kind = b.problems kind := by
  cases kind with
  | doublePageview => exact countFrom_eq _ _ h.tagRules fun _ _ hr => by rw [hr.detected]
  | consentMode => exact countFrom_eq _ _ h.consent fun _ _ => ConsentCoverage.Alike.problems
  | htmlSecurity => exact countFrom_eq _ _ h.security fun _ _ hs => hs.flagged
  | triggerQuality =>
    refine countFrom_eq _ _ h.triggerQuality fun _ _ hq => ?_
    exact Issue.Alike.countP_category_eq (List.Perm.of_eq hq.1.issues) (· != .triggerUnused)
  | variableQuality => simp only [Audit.problems, countFrom, h.variableQuality]
  | uaObsolete => exact countFrom_eq _ _ h.tagRules fun _ _ hr => hr.obsolete
  | paused => exact countFrom_eq _ _ h.tagRules fun _ _ hr => hr.paused
  | unused =>
    have hunused : countFrom a.triggerQuality (·.1.unused) =
        countFrom b.triggerQuality (·.1.unused) :=
      countFrom_eq _ _ h.triggerQuality fun _ _ hq => hq.1.unused
    have hvariables : countFrom a.variableQuality (·.1.unused) =
        countFrom b.variableQuality (·.1.unused) := by
      rw [countFrom, countFrom, h.variableQuality]
    exact congrArg₂ (· + ·) hunused hvariables
  | naming => exact countFrom_eq _ _ h.tagRules fun _ _ hr => hr.allBadNames

theorem plan : a.plan = b.plan := by
  simp only [Audit.plan, h.problems]

theorem unavailable : a.unavailable = b.unavailable := by
  rw [Audit.unavailable, Audit.unavailable, h.failures, h.score]

theorem countsJson : a.countsJson = b.countsJson := by
  rw [Audit.countsJson, Audit.countsJson, h.tags.length_eq, h.triggers, h.userVariables,
    h.builtinNames, h.tags.countP_eq, h.issues.length_eq]

theorem distributionJson : Audit.distributionJson a.container =
    Audit.distributionJson b.container := by
  have hfrequencies : ∀ f : Tag → String, frequenciesJson (a.container.tags.map f) =
      frequenciesJson (b.container.tags.map f) := by
    intro f
    rw [frequenciesJson, frequenciesJson, frequencies_eq_of_perm (h.tags.map f)]
  rw [Audit.distributionJson, Audit.distributionJson, hfrequencies, hfrequencies, h.triggers,
    h.userVariables]

end Alike

end Audit

end TagAudit
