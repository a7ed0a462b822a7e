import TagAudit.Proofs.Audit.Issues

/-!
# Failures stay where they are

Preventing helpers of an audit takes away their own results and nothing else: the other results,
the other issues and the other dimensions are those of the whole audit. The only helper that needs
another one is that for unresolved references, which has nothing to do without a usage graph.
-/

namespace TagAudit

/-- The analysis that a dimension of the score is the value of. -/
def Dimension.analyzer : Dimension → Helper
  | tagCleanliness => .tagRules
  | triggerCleanliness | triggerQuality => .triggerQuality
  | variableCleanliness | variableQuality => .variableQuality
  | consent => .consentMode
  | htmlSecurity => .htmlSecurity

namespace Audit

/-- The analyses that have results of their own. -/
def analyzers : List Helper :=
  [.tagRules, .consentMode, .triggerQuality, .variableQuality, .htmlSecurity]

/-- The issues that helper would have found are lost if it is prevented, and those of unresolved
references also if there is no graph to find them in. -/
def loses (prevented : Helper → Bool) : Helper → Bool
  | .unresolvedReferences => prevented .unresolvedReferences || prevented .usageGraph
  | helper => prevented helper

/-- A prevented helper fails, but unresolved references are not looked for, and so cannot fail,
without a graph. -/
def fails (prevented : Helper → Bool) : Helper → Bool
  | .unresolvedReferences => !prevented .usageGraph && prevented .unresolvedReferences
  | helper => prevented helper

/-- The names of the helpers that fail where some are prevented, in the order of the helpers. -/
def failingNames (prevented : Helper → Bool) : List String :=
  (Helper.all.filter (fails prevented)).map (·.name)

/-- A partial audit is the whole audit without what the prevented helpers give. -/
structure Isolated (prevented : Helper → Bool) (whole part : Audit) : Prop where
  tagRules : part.tagRules.result = if prevented .tagRules then none else whole.tagRules.result
  consent : part.consent.result = if prevented .consentMode then none else whole.consent.result
  triggerQuality : part.triggerQuality.result =
    if prevented .triggerQuality then none else whole.triggerQuality.result
  variableQuality : part.variableQuality.result =
    if prevented .variableQuality then none else whole.variableQuality.result
  security : part.security.result =
    if prevented .htmlSecurity then none else whole.security.result
  /-- The presented results are null where they are taken away, else the same. -/
  results : part.resultsJson =
    analyzers.zipWith
      (fun helper (name, value) => (name, if prevented helper then .null else value))
      whole.resultsJson
  /-- All issues, helper by helper. -/
  wholeIssues : whole.issues = finders.flatMap whole.issuesOf
  /-- The issues that are left, in the same order. -/
  issues : part.issues = (finders.filter (!loses prevented ·)).flatMap whole.issuesOf
  /-- A dimension has no value exactly if its own analysis is prevented. -/
  dimensions : ∀ dimension,
    dimension ∈ part.score.unavailable ↔ prevented dimension.analyzer = true
  /-- The failed helpers in their order, then the keys of the dimensions that are not named yet. -/
  unavailable : part.unavailable =
    failingNames prevented ++
      ((Dimension.all.filter (prevented ·.analyzer)).map (·.key)).filter
        (!(failingNames prevented).contains ·)

/-- Duplicates that are erased from a list followed by another: those of the second list that are
in the first one, if neither has any of its own. -/
private theorem eraseDups_append_of_nodup {names keys : List String} (hn : names.Nodup)
    (hk : keys.Nodup) :
    (names ++ keys).eraseDups = names ++ keys.filter (!names.contains ·) := by
  have hself : ∀ {xs : List String}, xs.Nodup → xs.eraseDups = xs := by
    intro xs hx
    induction xs with
    | nil => rfl
    | cons x xs ih =>
      have hmem := (List.nodup_cons.mp hx).1
      have hfilter : xs.filter (fun y => !y == x) = xs := by
        refine List.filter_eq_self.mpr fun y hy => ?_
        have hne : y ≠ x := fun he => hmem (he ▸ hy)
        simpa using hne
      rw [List.eraseDups_cons, hfilter, ih (List.nodup_cons.mp hx).2]
  rw [List.eraseDups_append, hself hn, List.removeAll, hself (hk.filter _)]

section OfData

variable (config : Config) (prevented : Helper → Bool) (data : Json)

/-- A result of an audit with prevented helpers. -/
theorem tagRules_isolated : (ofData config prevented data).tagRules.result =
    if prevented .tagRules then none
    else (ofData config (fun _ => false) data).tagRules.result := by
  simp only [tagRules_ofData, Bool.false_eq_true, if_false]

theorem consent_isolated : (ofData config prevented data).consent.result =
    if prevented .consentMode then none
    else (ofData config (fun _ => false) data).consent.result := by
  simp only [consent_ofData, Bool.false_eq_true, if_false]

/-- A graph of its own gives the analysis of triggers the same result. -/
theorem triggerQuality_isolated : (ofData config prevented data).triggerQuality.result =
    if prevented .triggerQuality then none
    else (ofData config (fun _ => false) data).triggerQuality.result := by
  simp only [triggerQuality_ofData, Bool.false_eq_true, if_false]

/-- A graph of its own gives the analysis of variables the same result. -/
theorem variableQuality_isolated : (ofData config prevented data).variableQuality.result =
    if prevented .variableQuality then none
    else (ofData config (fun _ => false) data).variableQuality.result := by
  simp only [variableQuality_ofData, Bool.false_eq_true, if_false]

theorem security_isolated : (ofData config prevented data).security.result =
    if prevented .htmlSecurity then none
    else (ofData config (fun _ => false) data).security.result := by
  simp only [security_ofData, Bool.false_eq_true, if_false]

/-- The issues of an outcome that is as another one unless it is taken away. -/
private theorem issuesFrom_isolated {α : Type} {issues : α → List Issue} {lost : Bool}
    {part whole : Outcome α} (h : part.result = if lost then none else whole.result) :
    issuesFrom part issues = if lost then [] else issuesFrom whole issues := by
  cases lost <;> simp [issuesFrom, h]

/-- The issues of a helper are lost with it or stay as they are. -/
theorem issuesOf_isolated (helper : Helper) : (ofData config prevented data).issuesOf helper =
    if loses prevented helper then []
    else (ofData config (fun _ => false) data).issuesOf helper := by
  cases helper with
  | tagRules => exact issuesFrom_isolated (tagRules_isolated config prevented data)
  | consentMode => exact issuesFrom_isolated (consent_isolated config prevented data)
  | triggerQuality => exact issuesFrom_isolated (triggerQuality_isolated config prevented data)
  | variableQuality => exact issuesFrom_isolated (variableQuality_isolated config prevented data)
  | htmlSecurity => exact issuesFrom_isolated (security_isolated config prevented data)
  | unresolvedReferences =>
    simp only [issuesOf, issuesFrom, unresolved_ofData, loses]
    cases prevented .usageGraph <;> cases prevented .unresolvedReferences <;> rfl
  | usageGraph => simp only [issuesOf, ite_self]
  | migrationSuggestions => simp only [issuesOf, ite_self]

/-- The issues that are left are those of the helpers that lose none, in the same order. -/
theorem issues_isolated : (ofData config prevented data).issues =
    (finders.filter (!loses prevented ·)).flatMap
      (ofData config (fun _ => false) data).issuesOf := by
  rw [issues_eq_flatMap]
  generalize finders = helpers
  induction helpers with
  | nil => rfl
  | cons helper rest ih =>
    rw [List.flatMap_cons, issuesOf_isolated, ih, List.filter_cons]
    cases loses prevented helper <;> simp

/-- A presented result is null exactly if it is taken away, and else the same. -/
private theorem resultJson_isolated {α : Type} {name : String} {json : α → Json}
    {message : α → StatusMessage} {lost : Bool} {part whole : Outcome α}
    (h : part.result = if lost then none else whole.result) :
    resultJson part name json message =
      if lost then .null else resultJson whole name json message := by
  cases lost <;> simp [resultJson, h]

/-- The presented results of the analyses are null where they are prevented, else the same. -/
theorem results_isolated : (ofData config prevented data).resultsJson =
    analyzers.zipWith
      (fun helper (name, value) => (name, if prevented helper then .null else value))
      (ofData config (fun _ => false) data).resultsJson := by
  simp only [resultsJson, config_ofData, analyzers, List.zipWith_cons_cons, List.zipWith_nil_left,
    resultJson_isolated (tagRules_isolated config prevented data),
    resultJson_isolated (consent_isolated config prevented data),
    resultJson_isolated (triggerQuality_isolated config prevented data),
    resultJson_isolated (variableQuality_isolated config prevented data),
    resultJson_isolated (security_isolated config prevented data)]

/-- An outcome as another one that did not fail has failed exactly if it is taken away. -/
private theorem failed_isolated {α : Type} {lost : Bool} {part whole : Outcome α}
    (hwhole : whole.failed = false) (h : part.result = if lost then none else whole.result) :
    part.failed = lost := by
  cases lost <;> simp_all [Outcome.failed]

section Complete

variable (complete : (ofData config (fun _ => false) data).failures = [])

include complete

/-- Where no helper fails by itself, those that fail are the prevented ones. -/
theorem failures_isolated :
    (ofData config prevented data).failures = Helper.all.filter (fails prevented) := by
  have hok := hasFailed_eq_false complete
  refine List.filter_congr fun helper _ => ?_
  cases helper with
  | tagRules => exact failed_isolated (hok .tagRules) (tagRules_isolated config prevented data)
  | consentMode => exact failed_isolated (hok .consentMode) (consent_isolated config prevented data)
  | triggerQuality =>
    exact failed_isolated (hok .triggerQuality) (triggerQuality_isolated config prevented data)
  | variableQuality =>
    exact failed_isolated (hok .variableQuality) (variableQuality_isolated config prevented data)
  | htmlSecurity =>
    exact failed_isolated (hok .htmlSecurity) (security_isolated config prevented data)
  | usageGraph =>
    simp only [hasFailed, Outcome.failed, usage_ofData, fails]
    cases prevented .usageGraph <;> rfl
  | unresolvedReferences =>
    simp only [hasFailed, Outcome.failed, unresolved_ofData, fails]
    cases prevented .usageGraph <;> cases prevented .unresolvedReferences <;> rfl
  | migrationSuggestions =>
    simp only [hasFailed, Outcome.failed, migration_ofData, fails]
    cases prevented .migrationSuggestions <;> rfl

/-- Where no helper fails by itself, a dimension has no value exactly if its analysis is
prevented. -/
theorem isNone_value?_isolated (dimension : Dimension) :
    ((ofData config prevented data).score.values dimension).isNone =
      prevented dimension.analyzer := by
  have hok := hasFailed_eq_false complete
  have ht := failed_isolated (hok .tagRules) (tagRules_isolated config prevented data)
  have hc := failed_isolated (hok .consentMode) (consent_isolated config prevented data)
  have hq := failed_isolated (hok .triggerQuality) (triggerQuality_isolated config prevented data)
  have hv :=
    failed_isolated (hok .variableQuality) (variableQuality_isolated config prevented data)
  have hs := failed_isolated (hok .htmlSecurity) (security_isolated config prevented data)
  simp only [Outcome.failed] at ht hc hq hv hs
  cases dimension <;>
    simp only [score, value?, Option.isNone_map, Dimension.analyzer, ht, hc, hq, hv, hs]

/-- Where no helper fails by itself, the dimensions without a value are those whose analyses are
prevented. -/
theorem unavailable_isolated : (ofData config prevented data).score.unavailable =
    Dimension.all.filter (prevented ·.analyzer) :=
  List.filter_congr fun dimension _ =>
    isNone_value?_isolated config prevented data complete dimension

/-- Preventing helpers takes away what they give and nothing else. -/
theorem isolated_ofData :
    Isolated prevented (ofData config (fun _ => false) data) (ofData config prevented data) where
  tagRules := tagRules_isolated config prevented data
  consent := consent_isolated config prevented data
  triggerQuality := triggerQuality_isolated config prevented data
  variableQuality := variableQuality_isolated config prevented data
  security := security_isolated config prevented data
  results := results_isolated config prevented data
  wholeIssues := issues_eq_flatMap _
  issues := issues_isolated config prevented data
  dimensions := by
    intro dimension
    rw [unavailable_isolated config prevented data complete, List.mem_filter]
    have hall : dimension ∈ Dimension.all := by cases dimension <;> decide
    exact and_iff_right hall
  unavailable := by
    have hnames : (Helper.all.map (·.name)).Nodup := by decide
    have hkeys : (Dimension.all.map (·.key)).Nodup := by decide
    rw [Audit.unavailable, failures_isolated config prevented data complete,
      unavailable_isolated config prevented data complete]
    exact eraseDups_append_of_nodup (hnames.sublist (List.filter_sublist.map _))
      (hkeys.sublist (List.filter_sublist.map _))

end Complete

end OfData

/-- Without the graph and the rules for tags, the dimension of tags alone has no value, and the
unresolved references are not named. -/
theorem isolated_pausedTagExport :
    let prevented : Helper → Bool := fun helper => helper == .usageGraph || helper == .tagRules
    (ofData Config.default prevented pausedTagExport).unavailable =
        ["usage_graph", "tag_rules", "tags"] ∧
      Isolated prevented (ofData Config.default (fun _ => false) pausedTagExport)
        (ofData Config.default prevented pausedTagExport) := by
  intro prevented
  have hunavailable : (ofData Config.default prevented pausedTagExport).unavailable =
      ["usage_graph", "tag_rules", "tags"] := by decide +kernel
  exact ⟨hunavailable, isolated_ofData _ _ _ complete_pausedTagExport⟩

end Audit

end TagAudit
