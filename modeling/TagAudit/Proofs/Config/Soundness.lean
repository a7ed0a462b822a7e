import TagAudit.Proofs.Audit.Robustness
import TagAudit.Proofs.Config.Range
import TagAudit.Proofs.Number.Order

/-!
# Sound configurations

What a configuration promises to the analyses: weights that are numbers and not negative,
severities of a known name, ordered thresholds, a penalty between zero and one, and limits that are
whole numbers; and that no analysis fails for its sake. Overrides are meant to be refused with an
error of the configuration or to give a configuration that keeps these promises. This module tells
exactly which overrides without very large integers do neither: those with values that cannot be
compared, thresholds that compare with one another but not with a score, and weights that are
undefined.
-/

namespace TagAudit

namespace Config

/-- The fields that are limits. -/
def limitFields : List String :=
  ["min_timer_interval_ms", "max_statements_without_try", "max_parameter_depth", "name_min_length",
    "name_max_length"]

/-- A table has the keys of the standard one, each with a number that is not negative. -/
structure IsWeightTable (standard table : Json) : Prop where
  keys : table.members.map (·.1) = standard.members.map (·.1)
  weights : ∀ member ∈ table.members, ∃ n, member.2 = .number n ∧ Number.le (.int 0) n = true

/-- A table has a number other than zero. -/
def HasWeight (table : Json) : Prop :=
  ∃ member ∈ table.members, ∃ n, member.2 = .number n ∧ n.isZero = false

/-- Three values count as numbers that go up. -/
def InOrder (low middle high : Json) : Prop :=
  ∃ l m h, low.number? = some l ∧ middle.number? = some m ∧ high.number? = some h ∧
    l.le m = true ∧ m.le h = true

/-- A configuration, as it is shown, is what the analyses rely on. -/
structure Sound (config : Config) : Prop where
  weights : ∀ table ∈ ["score_weights", "trigger_weights", "variable_weights",
    "html_severity_weights"], IsWeightTable (default.toJson.get table) (config.toJson.get table)
  weighty : ∀ table ∈ ["score_weights", "trigger_weights", "variable_weights"],
    HasWeight (config.toJson.get table)
  severities : ∀ member ∈ (config.toJson.get "variable_severities").members,
    ∃ severity : Severity, member.2 = .string severity.name
  thresholds : InOrder ((config.toJson.get "status_thresholds").get "critical")
    ((config.toJson.get "status_thresholds").get "major")
    ((config.toJson.get "status_thresholds").get "minor")
  penalty : ∃ n, (config.toJson.get "spa_penalty_score").number? = some n ∧
    Number.le (.int 0) n = true ∧ n.le (.int 1) = true
  limits : ∀ field ∈ limitFields, ∃ n, config.toJson.get field = .nat n
  lengths : ∃ least most, config.toJson.get "name_min_length" = .nat least ∧
    config.toJson.get "name_max_length" = .nat most ∧ least ≤ most

/-- No analysis fails because of a configured value: one that fails fails by default as well, or
meets an interval of a timer with too many digits to be read. -/
def Blameless (config : Config) : Prop :=
  ∀ data helper, (Audit.ofData config (fun _ => false) data).hasFailed helper = true →
    (Audit.ofData default (fun _ => false) data).hasFailed helper = true ∨
      helper = .htmlSecurity ∧ ∃ tag ∈ (Audit.containerOf data).tags, tag.kind = "html" ∧
        ∃ timer ∈ ["setInterval", "setTimeout"],
          ∃ interval ∈ Script.timerIntervals tag.html.toList timer,
            Script.isUnreadable interval = true

/-- Overrides are refused with an error of the configuration, or they give a sound configuration
that no analysis fails for, be it over a value or over an integer that is too large. -/
structure Checked (overrides : Json) : Prop where
  refused : ofJson overrides ≠ .error .incomparable
  sound : ∀ config, ofJson overrides = .ok config → config.Sound
  blameless : ∀ config, ofJson overrides = .ok config → config.Blameless
  representable : ∀ config, ofJson overrides = .ok config → config.Representable

/-- The overrides that the checks do not get hold of. -/
inductive Escapes (overrides : Json) : Prop
  /-- Two thresholds do not compare, while everything checked before them is accepted. -/
  | thresholds {config : Config} (tables : TablesRead overrides config)
      (known : KnownThresholds overrides)
      (incomparable : (thresholdOf overrides .critical).atMost? (thresholdOf overrides .major) =
          none ∨
        (thresholdOf overrides .critical).atMost? (thresholdOf overrides .major) = some true ∧
          (thresholdOf overrides .major).atMost? (thresholdOf overrides .minor) = none)
  /-- The penalty is no number, while everything checked before it is accepted. -/
  | penalty {config : Config} (tables : TablesRead overrides config)
      (accepted : readThresholds (tableOf overrides "status_thresholds") =
        .ok config.statusThresholds)
      (incomparable : (penaltyOf overrides).number? = none)
  /-- A threshold is accepted that is no number. -/
  | threshold {config : Config} (accepted : ofJson overrides = .ok config) (severity : Severity)
      (incomparable : (config.statusThresholds severity).number? = none)
  /-- A weight is accepted that is undefined. -/
  | weight {config : Config} (accepted : ofJson overrides = .ok config)
      (undefined : .float .nan ∈ config.weights)

section Weights

variable {κ : Type} {table : String} {keys : List κ} {key : κ → String} {standard : κ → Number}
  {needed : Bool} {override : Json} {weights : κ → Number}

/-- An accepted weight that is defined is not negative. -/
theorem le_of_readWeights (h : readWeights table keys key standard needed override = .ok weights)
    (hstandard : ∀ k, Number.le (.int 0) (standard k) = true) {k : κ} (hk : k ∈ keys)
    (hdefined : weights k ≠ .float .nan) : Number.le (.int 0) (weights k) = true := by
  obtain ⟨rfl, -, hweights, -⟩ := readWeights_eq_ok_iff.mp h
  revert hdefined
  rw [weightFrom]
  split
  next n hn =>
    intro hdefined
    have hweight : isWeight (.number n) = true := hweights k hk _ hn
    rw [Number.le_eq_not_lt (by decide) (mt Number.place_eq_nowhere_iff.mp hdefined)]
    exact hweight
  next => exact fun _ => hstandard k

/-- A table that needs a weight has one. -/
theorem exists_isZero_eq_false
    (h : readWeights table keys key standard true override = .ok weights) :
    ∃ k ∈ keys, (weights k).isZero = false := by
  obtain ⟨-, -, -, hsum⟩ := readWeights_eq_ok_iff.mp h
  by_contra hnone
  have hzero : (Scalar.sum (keys.map weights)).isZero = true := by
    refine Number.isZero_sum fun x hx => ?_
    obtain ⟨k, hk, rfl⟩ := List.mem_map.mp hx
    by_contra hweight
    exact hnone ⟨k, hk, eq_false_of_ne_true hweight⟩
  have hle : (Scalar.sum (keys.map weights)).le (.int 0) = true := by
    rw [Number.le, Bool.or_eq_true]
    exact .inr hzero
  rw [hsum rfl] at hle
  cases hle

theorem isWeightTable_tableJson (standard : κ → Number)
    (h : ∀ k ∈ keys, Number.le (.int 0) (weights k) = true) :
    IsWeightTable (tableJson keys key (.number <| standard ·))
      (tableJson keys key (.number <| weights ·)) := by
  constructor
  · simp [tableJson, Json.members]
  · intro member hmember
    obtain ⟨k, hk, rfl⟩ := List.mem_map.mp hmember
    exact ⟨weights k, rfl, h k hk⟩

theorem IsWeightTable.le {shown : Json}
    (h : IsWeightTable shown (tableJson keys key (.number <| weights ·))) {k : κ} (hk : k ∈ keys) :
    Number.le (.int 0) (weights k) = true := by
  obtain ⟨n, hn, hle⟩ := h.weights _ (List.mem_map_of_mem hk)
  cases hn
  exact hle

theorem hasWeight_tableJson (h : ∃ k ∈ keys, (weights k).isZero = false) :
    HasWeight (tableJson keys key (.number <| weights ·)) := by
  obtain ⟨k, hk, hzero⟩ := h
  exact ⟨_, List.mem_map_of_mem hk, weights k, rfl, hzero⟩

end Weights

section Thresholds

/-- What compares is a number on both sides or on neither. -/
theorem isSome_number?_of_atMost? {x y : Json} {answer : Bool} (h : x.atMost? y = some answer) :
    x.number?.isSome = y.number?.isSome := by
  cases x with
  | null => cases h
  | bool b =>
    rw [Json.atMost?] at h
    obtain ⟨n, hn, -⟩ := Option.map_eq_some_iff.mp h
    rw [hn]
    rfl
  | number m =>
    rw [Json.atMost?] at h
    obtain ⟨n, hn, -⟩ := Option.map_eq_some_iff.mp h
    rw [hn]
    rfl
  | string s =>
    rw [Json.atMost?] at h
    obtain ⟨t, ht, -⟩ := Option.map_eq_some_iff.mp h
    cases y <;> first | rfl | cases ht
  | array xs => cases y <;> first | rfl | (rw [Json.atMost?] at h <;> cases h)
  | object ms => cases h

theorem atMost?_of_number? {x y : Json} {m n : Number} (hx : x.number? = some m)
    (hy : y.number? = some n) : x.atMost? y = some (m.le n) := by
  cases x with
  | bool b =>
    cases hx
    rw [Json.atMost?, hy, Option.map_some]
  | number k =>
    cases hx
    rw [Json.atMost?, hy, Option.map_some]
  | null | string _ | array _ | object _ => cases hx

end Thresholds

section Accepted

variable {overrides : Json} {config : Config}

/-- An accepted configuration without an undefined weight has no negative one. -/
theorem le_of_mem_weights (h : Read overrides config) (hdefined : .float .nan ∉ config.weights)
    {x : Number} (hx : x ∈ config.weights) : Number.le (.int 0) x = true := by
  have hne : x ≠ .float .nan := fun hnan => hdefined (hnan ▸ hx)
  have hscore (k : Dimension) : Number.le (.int 0) (defaultScoreWeights k) = true := by
    cases k <;> decide +kernel
  have htrigger (k : TriggerAspect) : Number.le (.int 0) (defaultTriggerWeights k) = true := by
    cases k <;> decide +kernel
  have hvariable (k : VariableAspect) :
      Number.le (.int 0) (defaultVariableWeights k) = true := by
    cases k <;> decide +kernel
  have hseverity (k : Severity) : Number.le (.int 0) (defaultHtmlSeverityWeights k) = true := by
    cases k <;> decide +kernel
  rcases mem_weights_iff.mp hx with ⟨k, rfl⟩ | ⟨k, rfl⟩ | ⟨k, rfl⟩ | ⟨k, rfl⟩
  · exact le_of_readWeights h.scoreWeights hscore k.mem_all hne
  · exact le_of_readWeights h.triggerWeights htrigger k.mem_all hne
  · exact le_of_readWeights h.variableWeights hvariable k.mem_byWeight hne
  · exact le_of_readWeights h.htmlSeverityWeights hseverity (mem_severityOrder k) hne

/-- Accepted thresholds are in order as numbers if they are numbers. -/
theorem inOrder_of_read (h : Read overrides config)
    (hnumbers : ∀ severity, (config.statusThresholds severity).number?.isSome = true) :
    InOrder (config.statusThresholds .critical) (config.statusThresholds .major)
      (config.statusThresholds .minor) := by
  obtain ⟨-, -, hlow, hhigh⟩ := readThresholds_eq_ok_iff.mp h.statusThresholds
  obtain ⟨critical, hcritical⟩ := Option.isSome_iff_exists.mp (hnumbers .critical)
  obtain ⟨major, hmajor⟩ := Option.isSome_iff_exists.mp (hnumbers .major)
  obtain ⟨minor, hminor⟩ := Option.isSome_iff_exists.mp (hnumbers .minor)
  rw [atMost?_of_number? hcritical hmajor] at hlow
  rw [atMost?_of_number? hmajor hminor] at hhigh
  exact ⟨critical, major, minor, hcritical, hmajor, hminor, Option.some.inj hlow,
    Option.some.inj hhigh⟩

/-- An accepted configuration is sound if its thresholds are numbers and its weights defined. -/
theorem sound_of_read (h : Read overrides config)
    (hnumbers : ∀ severity, (config.statusThresholds severity).number?.isSome = true)
    (hdefined : .float .nan ∉ config.weights) : config.Sound where
  weights := by
    have hle {x : Number} (hx : x ∈ config.weights) := le_of_mem_weights h hdefined hx
    intro table htable
    simp only [List.mem_cons, List.not_mem_nil, or_false] at htable
    rcases htable with rfl | rfl | rfl | rfl
    · exact isWeightTable_tableJson _ fun k _ => hle (mem_weights_iff.mpr (.inl ⟨k, rfl⟩))
    · exact isWeightTable_tableJson _ fun k _ => hle (mem_weights_iff.mpr (.inr (.inl ⟨k, rfl⟩)))
    · exact isWeightTable_tableJson _ fun k _ =>
        hle (mem_weights_iff.mpr (.inr (.inr (.inl ⟨k, rfl⟩))))
    · exact isWeightTable_tableJson _ fun k _ =>
        hle (mem_weights_iff.mpr (.inr (.inr (.inr ⟨k, rfl⟩))))
  weighty := by
    intro table htable
    simp only [List.mem_cons, List.not_mem_nil, or_false] at htable
    rcases htable with rfl | rfl | rfl
    · exact hasWeight_tableJson (exists_isZero_eq_false h.scoreWeights)
    · exact hasWeight_tableJson (exists_isZero_eq_false h.triggerWeights)
    · exact hasWeight_tableJson (exists_isZero_eq_false h.variableWeights)
  severities := by
    intro member hmember
    obtain ⟨⟨category, severity⟩, -, rfl⟩ := List.mem_map.mp hmember
    exact ⟨severity, rfl⟩
  thresholds := inOrder_of_read h hnumbers
  penalty := by
    obtain ⟨heq, hpenalty⟩ := readPenalty_eq_ok_iff.mp h.spaPenaltyScore
    rw [heq] at hpenalty
    exact hpenalty
  limits := by
    intro field hfield
    simp only [limitFields, List.mem_cons, List.not_mem_nil, or_false] at hfield
    rcases hfield with rfl | rfl | rfl | rfl | rfl <;> exact ⟨_, rfl⟩
  lengths := ⟨_, _, rfl, rfl, h.lengths⟩

/-- No weight of a sound configuration is undefined. -/
theorem Sound.not_mem_weights (h : config.Sound) : .float .nan ∉ config.weights := by
  intro hnan
  have hle : Number.le (.int 0) (.float .nan) = true := by
    rcases mem_weights_iff.mp hnan with ⟨k, hk⟩ | ⟨k, hk⟩ | ⟨k, hk⟩ | ⟨k, hk⟩
    · have htable := h.weights "score_weights" (by decide)
      exact hk ▸ IsWeightTable.le htable k.mem_all
    · have htable := h.weights "trigger_weights" (by decide)
      exact hk ▸ IsWeightTable.le htable k.mem_all
    · have htable := h.weights "variable_weights" (by decide)
      exact hk ▸ IsWeightTable.le htable k.mem_byWeight
    · have htable := h.weights "html_severity_weights" (by decide)
      exact hk ▸ IsWeightTable.le htable (mem_severityOrder k)
  cases hle

end Accepted

section Failures

variable {config : Config}

open Audit

/-- A helper that nothing keeps from running has failed exactly if its analysis did. -/
private theorem failed_eq_not_isOk {α : Type} {outcome : Outcome α}
    {analysis : Except AnalysisError α}
    (h : outcome.result = if false = true then none else analysis.toOption) :
    outcome.failed = !analysis.isOk := by
  rw [Outcome.failed, h]
  cases analysis <;> rfl

/-- No analysis fails because of a configuration whose thresholds are numbers. -/
theorem blameless_of_thresholds
    (hnumbers : ∀ severity, (config.statusThresholds severity).number?.isSome = true) :
    config.Blameless := by
  intro data helper hfailed
  cases helper with
  | usageGraph => simp [hasFailed, Outcome.failed, usage_ofData] at hfailed
  | tagRules => simp [hasFailed, Outcome.failed, tagRules_ofData] at hfailed
  | unresolvedReferences => simp [hasFailed, Outcome.failed, unresolved_ofData] at hfailed
  | migrationSuggestions => simp [hasFailed, Outcome.failed, migration_ofData] at hfailed
  | consentMode =>
    left
    rw [hasFailed, failed_eq_not_isOk (consent_ofData ..)] at hfailed ⊢
    exact hfailed
  | triggerQuality =>
    left
    rw [hasFailed, failed_eq_not_isOk (triggerQuality_ofData ..)] at hfailed ⊢
    rw [isOk_triggerReport hnumbers, TriggerQuality.isOk_ofContainer] at hfailed
    rw [isOk_triggerReport isSome_defaultThreshold, TriggerQuality.isOk_ofContainer]
    exact hfailed
  | variableQuality =>
    left
    rw [hasFailed, failed_eq_not_isOk (variableQuality_ofData ..)] at hfailed ⊢
    rw [isOk_variableReport hnumbers, VariableQuality.isOk_ofContainer] at hfailed
    rw [isOk_variableReport isSome_defaultThreshold, VariableQuality.isOk_ofContainer]
    exact hfailed
  | htmlSecurity =>
    right
    refine ⟨rfl, ?_⟩
    rw [hasFailed, failed_eq_not_isOk (security_ofData ..)] at hfailed
    by_contra hnone
    -- the limit decides where the search for a tight interval ends, not which ones can be read
    have hok : (ScriptSecurity.ofContainer config (containerOf data)).isOk = true := by
      rw [ScriptSecurity.isOk_ofContainer, List.all_eq_true]
      intro tag htag
      obtain ⟨htag, hkind⟩ := List.mem_filter.mp htag
      refine (Script.isOk_scan ..).mpr fun timer htimer before interval after hsplit _ hbad => ?_
      have hinterval : interval ∈ Script.timerIntervals tag.html.toList timer := by
        rw [hsplit]
        exact List.mem_append_right _ (List.mem_cons_self ..)
      exact hnone ⟨tag, htag, beq_iff_eq.mp hkind, timer, htimer, interval, hinterval, hbad⟩
    rw [hok] at hfailed
    cases hfailed

/-- Accepted thresholds are all numbers or none of them is. -/
theorem number?_critical_eq_none {overrides : Json} (hread : Read overrides config)
    {severity : Severity} (h : (config.statusThresholds severity).number? = none) :
    (config.statusThresholds .critical).number? = none := by
  obtain ⟨-, -, hlow, hhigh⟩ := readThresholds_eq_ok_iff.mp hread.statusThresholds
  have hmajor := isSome_number?_of_atMost? hlow
  have hminor := isSome_number?_of_atMost? hhigh
  rw [← Option.isNone_iff_eq_none, ← Option.not_isSome] at h ⊢
  cases severity with
  | critical => exact h
  | major => rw [hmajor, h]
  | minor => rw [hmajor, hminor, h]

/-- An accepted threshold that is no number makes every analysis fail that compares a score with
it. -/
theorem hasFailed_of_threshold {overrides : Json} (hread : Read overrides config)
    {severity : Severity} (hnumber : (config.statusThresholds severity).number? = none)
    (data : Json) : (ofData config (fun _ => false) data).hasFailed .triggerQuality = true ∧
      (ofData config (fun _ => false) data).hasFailed .variableQuality = true := by
  have h := number?_critical_eq_none hread hnumber
  have hstatus (score : Number) :
      Score.status score config.statusThresholds = .error .incomparable := by
    rw [Score.status, Score.isBelow, h]
    rfl
  constructor
  · rw [hasFailed, failed_eq_not_isOk (triggerQuality_ofData ..), triggerReport]
    cases TriggerQuality.ofContainer (containerOf data)
        (graph config (containerOf data)).referencedTriggerIds with
    | error _ => rfl
    | ok quality =>
      simp only [Except.bind, TriggerQuality.message, hstatus]
      rfl
  · rw [hasFailed, failed_eq_not_isOk (variableQuality_ofData ..), variableReport]
    cases VariableQuality.ofContainer config (containerOf data)
        (graph config (containerOf data)).referencedNames with
    | error _ => rfl
    | ok quality =>
      simp only [Except.bind, VariableQuality.message, hstatus]
      rfl

end Failures

/-- The checks of overrides without large integers are complete except for thresholds and penalties
that are never asked to be numbers, and for undefined weights. -/
theorem checked_iff (overrides : Json)
    (hintegers : overrides.integersWithin largestInteger = true) :
    Checked overrides ↔ ¬ Escapes overrides := by
  constructor
  · intro hchecked hescapes
    cases hescapes with
    | thresholds tables known incomparable =>
      have hfault : ofJson overrides = .error .incomparable :=
        ofJson_eq_incomparable_iff.mpr ⟨_, tables,
          .inl (readThresholds_eq_incomparable_iff.mpr ⟨known, incomparable⟩)⟩
      exact hchecked.refused hfault
    | penalty tables accepted incomparable =>
      have hfault : ofJson overrides = .error .incomparable :=
        ofJson_eq_incomparable_iff.mpr ⟨_, tables,
          .inr ⟨accepted, readPenalty_eq_incomparable_iff.mpr incomparable⟩⟩
      exact hchecked.refused hfault
    | threshold accepted severity incomparable =>
      obtain ⟨critical, major, minor, hcritical, hmajor, hminor, -⟩ :=
        (hchecked.sound _ accepted).thresholds
      cases severity with
      | critical => cases incomparable.symm.trans hcritical
      | major => cases incomparable.symm.trans hmajor
      | minor => cases incomparable.symm.trans hminor
    | weight accepted undefined =>
      exact (hchecked.sound _ accepted).not_mem_weights undefined
  · intro hescapes
    have hnumbers (config : Config) (haccepted : ofJson overrides = .ok config)
        (severity : Severity) : (config.statusThresholds severity).number?.isSome = true := by
      rw [Option.isSome_iff_ne_none]
      intro hnone
      exact hescapes (.threshold haccepted severity hnone)
    refine ⟨fun hfault => ?_, fun config haccepted => ?_, fun config haccepted => ?_,
      fun config haccepted => representable_of_ofJson haccepted hintegers⟩
    · obtain ⟨config, tables, hthresholds | ⟨haccepted, hpenalty⟩⟩ :=
        ofJson_eq_incomparable_iff.mp hfault
      · obtain ⟨hknown, hincomparable⟩ := readThresholds_eq_incomparable_iff.mp hthresholds
        exact hescapes (.thresholds tables hknown hincomparable)
      · exact hescapes (.penalty tables haccepted (readPenalty_eq_incomparable_iff.mp hpenalty))
    · have hdefined : .float .nan ∉ config.weights := by
        intro hnan
        exact hescapes (.weight haccepted hnan)
      exact sound_of_read (ofJson_eq_ok_iff.mp haccepted) (hnumbers config haccepted) hdefined
    · exact blameless_of_thresholds (hnumbers config haccepted)

-- lists of the undefined number are in order with one another, and pass for thresholds
example : (ofJson (.object [("status_thresholds", .object [
    ("critical", .array [.number (.float .nan)]), ("major", .array [.number (.float .nan)]),
    ("minor", .array [.number (.float .nan)])])])).map (fun _ => ()) = .ok () := by
  decide +kernel

/-- Overrides with the largest weight that is an integer. -/
def largestWeightOverrides : Json :=
  .object [("score_weights", .object [("tags", .number (.int largestInteger))])]

/-- Such a weight is checked: nothing escapes. -/
theorem checked_largestWeight : Checked largestWeightOverrides := by
  refine (checked_iff _ (by decide +kernel)).mpr fun hescapes => ?_
  cases hescapes with
  | thresholds tables known incomparable =>
    revert incomparable
    decide +kernel
  | penalty tables accepted incomparable =>
    revert incomparable
    decide +kernel
  | threshold accepted severity incomparable =>
    have hread := ofJson_eq_ok_iff.mp accepted
    rw [← (readThresholds_eq_ok_iff.mp hread.statusThresholds).1] at incomparable
    revert incomparable
    cases severity <;> decide +kernel
  | weight accepted undefined =>
    have hread := ofJson_eq_ok_iff.mp accepted
    revert undefined
    rw [weights, ← (readWeights_eq_ok_iff.mp hread.scoreWeights).1,
      ← (readWeights_eq_ok_iff.mp hread.triggerWeights).1,
      ← (readWeights_eq_ok_iff.mp hread.variableWeights).1,
      ← (readWeights_eq_ok_iff.mp hread.htmlSeverityWeights).1]
    decide +kernel

/-- A penalty that is a text is compared with a number, and the comparison fails. -/
theorem not_checked_textPenalty : ¬ Checked (.object [("spa_penalty_score", .string "x")]) := by
  intro hchecked
  have hfault : (ofJson (.object [("spa_penalty_score", .string "x")])).map (fun _ => ()) =
      .error .incomparable := by
    decide +kernel
  apply hchecked.refused
  cases hread : ofJson (.object [("spa_penalty_score", .string "x")]) with
  | ok config => simp [hread, Except.map] at hfault
  | error fault =>
    rw [hread] at hfault
    exact congrArg Except.error (Except.error.inj hfault)

end Config

end TagAudit
