import TagAudit.Config.Override
import TagAudit.Proofs.Failure

/-!
# What overrides are read as

Overrides are read in stages: their form, the tables of weights and severities, the thresholds, the
penalty and the limits. A configuration comes out exactly if every stage gives its part of it, and
values without an order are met exactly at the thresholds or at the penalty, with everything before
them in order.
-/

namespace TagAudit.Config

open Failure

/-- Overrides that have the form of a configuration: an object of known fields, in which whatever
should be a table is an object. -/
structure Shaped (overrides : Json) : Prop where
  object : overrides.isObject = true
  known : ∀ member ∈ overrides.members, member.1 ∈ fields
  tables : ∀ member ∈ overrides.members, member.1 ∈ tableFields → member.2.isObject = true

/-- What overrides say about a table; nothing where they leave it out. -/
def tableOf (overrides : Json) (name : String) : Json := (overrides.get? name).getD (.object [])

/-- The threshold that overrides leave in place or set. -/
def thresholdOf (overrides : Json) (severity : Severity) : Json :=
  ((tableOf overrides "status_thresholds").get? severity.name).getD
    (defaultStatusThresholds severity)

/-- The penalty that overrides leave in place or set. -/
def penaltyOf (overrides : Json) : Json :=
  (overrides.get? "spa_penalty_score").getD default.spaPenaltyScore

/-- The weights and severities of a configuration are those that overrides give. -/
structure TablesRead (overrides : Json) (config : Config) : Prop where
  shaped : Shaped overrides
  scoreWeights : readWeights "score_weights" Dimension.all (·.key) defaultScoreWeights true
    (tableOf overrides "score_weights") = .ok config.scoreWeights
  triggerWeights : readWeights "trigger_weights" TriggerAspect.all (·.key) defaultTriggerWeights
    true (tableOf overrides "trigger_weights") = .ok config.triggerWeights
  variableWeights : readWeights "variable_weights" VariableAspect.byWeight (·.key)
    defaultVariableWeights true (tableOf overrides "variable_weights") = .ok config.variableWeights
  htmlSeverityWeights : readWeights "html_severity_weights" severityOrder (·.name)
    defaultHtmlSeverityWeights false (tableOf overrides "html_severity_weights") =
      .ok config.htmlSeverityWeights
  variableSeverities : readSeverities (tableOf overrides "variable_severities") =
    .ok config.variableSeverities

/-- Every part of a configuration is the one that overrides give. -/
structure Read (overrides : Json) (config : Config) : Prop extends TablesRead overrides config where
  statusThresholds : readThresholds (tableOf overrides "status_thresholds") =
    .ok config.statusThresholds
  spaPenaltyScore : readPenalty (penaltyOf overrides) = .ok config.spaPenaltyScore
  minTimerInterval : readLimit "min_timer_interval_ms" default.minTimerInterval
    (overrides.get? "min_timer_interval_ms") = .ok config.minTimerInterval
  maxStatementsWithoutTry : readLimit "max_statements_without_try" default.maxStatementsWithoutTry
    (overrides.get? "max_statements_without_try") = .ok config.maxStatementsWithoutTry
  maxParameterDepth : readLimit "max_parameter_depth" default.maxParameterDepth
    (overrides.get? "max_parameter_depth") = .ok config.maxParameterDepth
  nameMinLength : readLimit "name_min_length" default.nameMinLength
    (overrides.get? "name_min_length") = .ok config.nameMinLength
  nameMaxLength : readLimit "name_max_length" default.nameMaxLength
    (overrides.get? "name_max_length") = .ok config.nameMaxLength
  lengths : config.nameMinLength ≤ config.nameMaxLength

section Form

variable {overrides : Json}

private theorem Shaped.unknown_eq_nil (h : Shaped overrides) :
    (overrides.members.map (·.1)).filter (fun name => !fields.contains name) = [] := by
  rw [List.filter_eq_nil_iff]
  intro name hname
  obtain ⟨member, hmember, rfl⟩ := List.mem_map.mp hname
  simpa using h.known member hmember

private theorem Shaped.find?_eq_none (h : Shaped overrides) :
    overrides.members.find? (fun (name, value) =>
      tableFields.contains name && !value.isObject) = none := by
  rw [List.find?_eq_none]
  intro member hmember
  have htable := h.tables member hmember
  simpa using htable

/-- Overrides of another form are refused for their form. -/
private theorem exists_ofJson_eq_error (h : ¬ Shaped overrides) :
    ∃ fault, ofJson overrides = .error fault ∧ fault ≠ .incomparable := by
  -- the checks of the form in their order: the object, its fields, its tables
  by_cases hobject : overrides.isObject = true
  · cases hunknown :
      (overrides.members.map (·.1)).filter (fun name => !fields.contains name) with
    | cons name rest =>
      refine ⟨.unknownFields (name :: rest), ?_, Error.noConfusion⟩
      simp only [ofJson, hobject, hunknown]
      rfl
    | nil =>
      cases htables : overrides.members.find? (fun (name, value) =>
          tableFields.contains name && !value.isObject) with
      | some member =>
        refine ⟨.notATable member.1, ?_, Error.noConfusion⟩
        simp only [ofJson, hobject, hunknown, htables]
        rfl
      | none =>
        refine absurd ⟨hobject, fun member hmember => ?_, fun member hmember htable => ?_⟩ h
        · have hknown := List.filter_eq_nil_iff.mp hunknown member.1
            (List.mem_map_of_mem hmember)
          simpa using hknown
        · have hobject := List.find?_eq_none.mp htables member hmember
          simpa [htable] using hobject
  · have hobject : overrides.isObject = false := by simpa using hobject
    refine ⟨.notAnObject, ?_, Error.noConfusion⟩
    simp only [ofJson, hobject]
    rfl

end Form

/-- Overrides are accepted exactly if they give every part of the configuration. -/
theorem ofJson_eq_ok_iff {overrides : Json} {config : Config} :
    ofJson overrides = .ok config ↔ Read overrides config := by
  constructor
  · intro h
    have shaped : Shaped overrides := by
      by_contra hs
      obtain ⟨fault, hfault, -⟩ := exists_ofJson_eq_error hs
      rw [hfault] at h
      cases h
    simp only [ofJson, shaped.object, shaped.unknown_eq_nil, shaped.find?_eq_none, bind, pure,
      Except.pure, Bool.not_true, Bool.false_eq_true, if_false, List.isEmpty_nil,
      bind_eq_ok_iff] at h
    obtain ⟨score, hscore, trigger, htrigger, own, hown, html, hhtml, severities,
      hseverities, thresholds, hthresholds, penalty, hpenalty, timer, htimer, statements,
      hstatements, depth, hdepth, least, hleast, most, hmost, h⟩ := h
    split at h
    · cases h
    · cases h
      next hlengths =>
      exact ⟨⟨shaped, hscore, htrigger, hown, hhtml, hseverities⟩, hthresholds, hpenalty,
        htimer, hstatements, hdepth, hleast, hmost, Nat.le_of_not_lt hlengths⟩
  · intro h
    have hlengths : ¬ config.nameMaxLength < config.nameMinLength := Nat.not_lt.mpr h.lengths
    simp only [ofJson, h.shaped.object, h.shaped.unknown_eq_nil, h.shaped.find?_eq_none, bind,
      pure, Except.pure, Bool.not_true, Bool.false_eq_true, if_false, List.isEmpty_nil,
      bind_eq_ok_iff]
    exact ⟨_, h.scoreWeights, _, h.triggerWeights, _, h.variableWeights, _, h.htmlSeverityWeights,
      _, h.variableSeverities, _, h.statusThresholds, _, h.spaPenaltyScore, _, h.minTimerInterval,
      _, h.maxStatementsWithoutTry, _, h.maxParameterDepth, _, h.nameMinLength, _, h.nameMaxLength,
      if_neg hlengths⟩

section Parts

/-- A weight table is accepted exactly if it has no further keys, no value that is no weight and,
where one is needed, some weight in all. -/
theorem readWeights_eq_ok_iff {κ : Type} {table : String} {keys : List κ} {key : κ → String}
    {standard : κ → Number} {needed : Bool} {override : Json} {weights : κ → Number} :
    readWeights table keys key standard needed override = .ok weights ↔
      weightFrom key standard override = weights ∧
      (∀ member ∈ override.members, member.1 ∈ keys.map key) ∧
      (∀ k ∈ keys, ∀ value, override.get? (key k) = some value → isWeight value = true) ∧
      (needed = true → (Scalar.sum (keys.map weights)).le (.int 0) = false) := by
  unfold readWeights
  extract_lets unknown read
  have hunknown : unknown.isEmpty = true ↔
      ∀ member ∈ override.members, member.1 ∈ keys.map key := by
    simp only [unknown, List.isEmpty_iff, List.filter_eq_nil_iff, List.forall_mem_map,
      Bool.not_eq_true', Bool.not_eq_false, List.contains_iff_mem]
  have hfound : (keys.find? fun k => (override.get? (key k)).any (!isWeight ·)) = none ↔
      ∀ k ∈ keys, ∀ value, override.get? (key k) = some value → isWeight value = true := by
    simp only [List.find?_eq_none, Option.any_eq_true, Bool.not_eq_true', not_exists, not_and,
      Bool.not_eq_false]
  rw [← hunknown, ← hfound]
  cases unknown.isEmpty with
  | false => simp
  | true =>
    cases keys.find? fun k => (override.get? (key k)).any (!isWeight ·) with
    | some k => simp
    | none =>
      have hread : weightFrom key standard override = read := rfl
      cases hweight : needed && (Scalar.sum (keys.map read)).le (.int 0) with
      | true =>
        simp only [Bool.not_true, Bool.false_eq_true, if_false, if_true, true_and, reduceCtorEq,
          false_iff, hread]
        rintro ⟨rfl, hsum⟩
        obtain ⟨hneeded, hle⟩ := Bool.and_eq_true_iff.mp hweight
        rw [hsum hneeded] at hle
        cases hle
      | false =>
        simp only [Bool.not_true, Bool.false_eq_true, if_false, true_and, Except.ok.injEq, hread]
        constructor
        · rintro rfl
          refine ⟨rfl, fun hneeded => ?_⟩
          rw [hneeded, Bool.true_and] at hweight
          exact hweight
        · exact fun h => h.1

variable {overrides : Json}

/-- Every threshold that is overridden is one of the three. -/
def KnownThresholds (overrides : Json) : Prop :=
  ∀ member ∈ (tableOf overrides "status_thresholds").members,
    (Severity.ofName? member.1).isSome = true

private theorem any_isNone_eq_false_iff :
    (((tableOf overrides "status_thresholds").members.map (·.1)).any
      fun key => (Severity.ofName? key).isNone) = false ↔ KnownThresholds overrides := by
  simp only [KnownThresholds, List.any_eq_false, List.forall_mem_map, Bool.not_eq_true,
    Option.isNone_eq_false_iff]

private theorem readThresholds_eq (overrides : Json) :
    readThresholds (tableOf overrides "status_thresholds") =
      if ((tableOf overrides "status_thresholds").members.map (·.1)).any
          fun key => (Severity.ofName? key).isNone then .error .badThresholdKeys
      else match (thresholdOf overrides .critical).atMost? (thresholdOf overrides .major) with
        | none => .error .incomparable
        | some false => .error .unorderedThresholds
        | some true =>
          match (thresholdOf overrides .major).atMost? (thresholdOf overrides .minor) with
          | none => .error .incomparable
          | some false => .error .unorderedThresholds
          | some true => .ok (thresholdOf overrides) := rfl

/-- Thresholds are accepted exactly if they are the three and in order. -/
theorem readThresholds_eq_ok_iff {thresholds : Severity → Json} :
    readThresholds (tableOf overrides "status_thresholds") = .ok thresholds ↔
      thresholdOf overrides = thresholds ∧ KnownThresholds overrides ∧
      (thresholds .critical).atMost? (thresholds .major) = some true ∧
      (thresholds .major).atMost? (thresholds .minor) = some true := by
  rw [readThresholds_eq, ← any_isNone_eq_false_iff]
  constructor
  · intro h
    split at h
    next => cases h
    next hknown =>
      split at h
      next => cases h
      next => cases h
      next hlow =>
        split at h
        next => cases h
        next => cases h
        next hhigh =>
          cases h
          exact ⟨rfl, eq_false_of_ne_true hknown, hlow, hhigh⟩
  · rintro ⟨rfl, hknown, hlow, hhigh⟩
    rw [hknown, hlow, hhigh]
    rfl

/-- Thresholds have no order exactly if they are the three and the first two that do not go up in
order do not compare. -/
theorem readThresholds_eq_incomparable_iff :
    readThresholds (tableOf overrides "status_thresholds") = .error .incomparable ↔
      KnownThresholds overrides ∧
      ((thresholdOf overrides .critical).atMost? (thresholdOf overrides .major) = none ∨
        (thresholdOf overrides .critical).atMost? (thresholdOf overrides .major) = some true ∧
          (thresholdOf overrides .major).atMost? (thresholdOf overrides .minor) = none) := by
  rw [readThresholds_eq, ← any_isNone_eq_false_iff]
  cases ((tableOf overrides "status_thresholds").members.map (·.1)).any
      fun key => (Severity.ofName? key).isNone with
  | true => simp
  | false =>
    cases (thresholdOf overrides .critical).atMost? (thresholdOf overrides .major) with
    | none => simp
    | some low =>
      cases low with
      | false => simp
      | true =>
        cases (thresholdOf overrides .major).atMost? (thresholdOf overrides .minor) with
        | none => simp
        | some high => cases high <;> simp

/-- A penalty is accepted as it is exactly if it counts as a number between zero and one. -/
theorem readPenalty_eq_ok_iff {value penalty : Json} :
    readPenalty value = .ok penalty ↔ value = penalty ∧
      ∃ n, value.number? = some n ∧ Number.le (.int 0) n = true ∧ n.le (.int 1) = true := by
  unfold readPenalty
  cases value.number? with
  | none => simp
  | some n =>
    cases hrange : Number.le (.int 0) n && n.le (.int 1) with
    | false =>
      simp only [hrange, Bool.false_eq_true, if_false, reduceCtorEq, Option.some.injEq,
        exists_eq_left', ← Bool.and_eq_true, and_false]
    | true =>
      simp only [hrange, if_true, Except.ok.injEq, Option.some.injEq, exists_eq_left',
        ← Bool.and_eq_true, and_true]

/-- A penalty has no order exactly if it counts as no number. -/
theorem readPenalty_eq_incomparable_iff {value : Json} :
    readPenalty value = .error .incomparable ↔ value.number? = none := by
  unfold readPenalty
  cases value.number? with
  | none => simp
  | some n => dsimp only; split <;> simp

end Parts

section Comparisons

private theorem readWeights_ne_incomparable {κ : Type} (table : String) (keys : List κ)
    (key : κ → String) (standard : κ → Number) (needed : Bool) (override : Json) :
    readWeights table keys key standard needed override ≠ .error .incomparable := by
  unfold readWeights
  dsimp only
  split
  · exact fun h => by cases h
  · split
    · exact fun h => by cases h
    · split <;> exact fun h => by cases h

private theorem readSeverities_ne_incomparable (override : Json) :
    readSeverities override ≠ .error .incomparable := by
  intro h
  obtain ⟨⟨key, value⟩, -, hmember⟩ := exists_of_mapM_eq_error h
  dsimp only at hmember
  cases hvalue : severity? value with
  | none => simp [hvalue] at hmember
  | some severity => simp [hvalue] at hmember

private theorem readLimit_ne_incomparable (field : String) (standard : Nat)
    (override : Option Json) : readLimit field standard override ≠ .error .incomparable := by
  unfold readLimit
  split
  · exact fun h => by cases h
  · split <;> exact fun h => by cases h
  · exact fun h => by cases h

/-- Values without an order are met exactly at the thresholds, when all tables are read, or at the
penalty, when the thresholds are in order. -/
theorem ofJson_eq_incomparable_iff {overrides : Json} :
    ofJson overrides = .error .incomparable ↔ ∃ config, TablesRead overrides config ∧
      (readThresholds (tableOf overrides "status_thresholds") = .error .incomparable ∨
        readThresholds (tableOf overrides "status_thresholds") = .ok config.statusThresholds ∧
          readPenalty (penaltyOf overrides) = .error .incomparable) := by
  constructor
  · intro h
    have shaped : Shaped overrides := by
      by_contra hs
      obtain ⟨fault, hfault, hne⟩ := exists_ofJson_eq_error hs
      rw [hfault] at h
      exact hne (Except.error.inj h)
    simp only [ofJson, shaped.object, shaped.unknown_eq_nil, shaped.find?_eq_none, bind, pure,
      Except.pure, Bool.not_true, Bool.false_eq_true, if_false, List.isEmpty_nil,
      bind_eq_error_iff, readWeights_ne_incomparable, readSeverities_ne_incomparable,
      readLimit_ne_incomparable, false_or] at h
    obtain ⟨score, hscore, trigger, htrigger, own, hown, html, hhtml, severities,
      hseverities, h⟩ := h
    rcases h with hthresholds | ⟨thresholds, hthresholds, hpenalty | ⟨penalty, -, h⟩⟩
    · let config : Config := { default with
        scoreWeights := score, triggerWeights := trigger, variableWeights := own,
        htmlSeverityWeights := html, variableSeverities := severities }
      have htables : TablesRead overrides config :=
        ⟨shaped, hscore, htrigger, hown, hhtml, hseverities⟩
      exact ⟨config, htables, .inl hthresholds⟩
    · let config : Config := { default with
        scoreWeights := score, triggerWeights := trigger, variableWeights := own,
        htmlSeverityWeights := html, variableSeverities := severities,
        statusThresholds := thresholds }
      have htables : TablesRead overrides config :=
        ⟨shaped, hscore, htrigger, hown, hhtml, hseverities⟩
      exact ⟨config, htables, .inr ⟨hthresholds, hpenalty⟩⟩
    · obtain ⟨timer, -, statements, -, depth, -, least, -, most, -, h⟩ := h
      split at h <;> cases h
  · rintro ⟨config, h, hlater⟩
    simp only [ofJson, h.shaped.object, h.shaped.unknown_eq_nil, h.shaped.find?_eq_none, bind,
      pure, Except.pure, Bool.not_true, Bool.false_eq_true, if_false, List.isEmpty_nil,
      bind_eq_error_iff, readWeights_ne_incomparable, readSeverities_ne_incomparable,
      readLimit_ne_incomparable, false_or]
    refine ⟨_, h.scoreWeights, _, h.triggerWeights, _, h.variableWeights, _,
      h.htmlSeverityWeights, _, h.variableSeverities, ?_⟩
    rcases hlater with hthresholds | ⟨hthresholds, hpenalty⟩
    · exact .inl hthresholds
    · exact .inr ⟨_, hthresholds, .inl hpenalty⟩

end Comparisons

end TagAudit.Config
