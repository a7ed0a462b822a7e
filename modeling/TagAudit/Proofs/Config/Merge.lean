import TagAudit.Proofs.Config.Reading
import TagAudit.Proofs.Json.Assignment
import TagAudit.Proofs.Json.Rearranged

/-!
# Merging overrides

An accepted configuration is the default one with the overrides merged in key by key, and its
tables hold all weights that are looked up. Written out and read again as overrides it is accepted
once more, and nothing changes: the merged tables have the keys of the defaults and pass every check
that they passed before.
-/

namespace TagAudit.Config

open Failure

/-- A configuration holds what overrides set, and the default value of everything else: in a table
key by key, otherwise field by field. -/
structure Merges (overrides : Json) (config : Config) : Prop where
  tables : ∀ field ∈ tableFields, ∀ key, (config.toJson.get field).get? key =
    ((overrides.get field).get? key).or ((default.toJson.get field).get? key)
  others : ∀ field ∈ fields, field ∉ tableFields →
    config.toJson.get? field = (overrides.get? field).or (default.toJson.get? field)

/-- Every weight that is looked up is in its table: those of the dimensions for the score, those of
the aspects for the scores of triggers and variables, and those of the severities for scripts. -/
structure HasWeights (config : Config) : Prop where
  scoreWeights : ∀ dimension : Dimension,
    (config.toJson.get "score_weights").get? dimension.key =
      some (.number (config.scoreWeights dimension))
  triggerWeights : ∀ aspect : TriggerAspect,
    (config.toJson.get "trigger_weights").get? aspect.key =
      some (.number (config.triggerWeights aspect))
  variableWeights : ∀ aspect : VariableAspect,
    (config.toJson.get "variable_weights").get? aspect.key =
      some (.number (config.variableWeights aspect))
  htmlSeverityWeights : ∀ severity : Severity,
    (config.toJson.get "html_severity_weights").get? severity.name =
      some (.number (config.htmlSeverityWeights severity))

section Tables

variable {κ : Type} {keys : List κ} {key : κ → String}

/-- A table holds the value of the first member of its kind that has the key. -/
theorem get?_tableJson (value : κ → Json) (name : String) :
    (tableJson keys key value).get? name = (keys.find? (key · == name)).map value := by
  change (keys.map fun k => (key k, value k)).lookup name = _
  induction keys with
  | nil => rfl
  | cons k rest ih =>
    rw [List.map_cons, List.lookup_cons, List.find?_cons, ih, BEq.comm (a := name)]
    cases key k == name <;> rfl

theorem mem_members_of_get? {value found : Json} {name : String}
    (h : value.get? name = some found) : (name, found) ∈ value.members := by
  cases value with
  | object members =>
    obtain ⟨before, after, rfl, -⟩ := List.lookup_eq_some_iff.mp h
    simp [Json.members]
  | _ => cases h

/-- A table whose values are those of an override, and the default ones where that has none, is the
override merged over the defaults. -/
theorem get?_tableJson_eq_or {value standard : κ → Json} {override : Json}
    (hvalue : ∀ k ∈ keys, value k = (override.get? (key k)).getD (standard k))
    (hknown : ∀ member ∈ override.members, member.1 ∈ keys.map key) (name : String) :
    (tableJson keys key value).get? name =
      (override.get? name).or ((tableJson keys key standard).get? name) := by
  rw [get?_tableJson, get?_tableJson]
  cases hfind : keys.find? (key · == name) with
  | none =>
    cases hfound : override.get? name with
    | none => rfl
    | some found =>
      obtain ⟨k, hk, rfl⟩ := List.mem_map.mp (hknown _ (mem_members_of_get? hfound))
      have hne := List.find?_eq_none.mp hfind k hk
      simp at hne
  | some k =>
    have hk : key k = name := by simpa using List.find?_some hfind
    rw [Option.map_some, Option.map_some, hvalue k (List.mem_of_find?_eq_some hfind), hk]
    cases override.get? name <;> rfl

end Tables

section Weights

variable {κ : Type} {table : String} {keys : List κ} {key : κ → String} {standard : κ → Number}
  {needed : Bool} {override : Json} {weights : κ → Number}

/-- What is read as a weight table is the override merged over the default weights. -/
theorem get?_of_readWeights
    (h : readWeights table keys key standard needed override = .ok weights) (name : String) :
    (tableJson keys key (.number <| weights ·)).get? name =
      (override.get? name).or ((tableJson keys key (.number <| standard ·)).get? name) := by
  obtain ⟨rfl, hknown, hweights, -⟩ := readWeights_eq_ok_iff.mp h
  refine get?_tableJson_eq_or (fun k hk => ?_) hknown name
  rw [weightFrom]
  cases hfound : override.get? (key k) with
  | none => rfl
  | some value =>
    have hweight := hweights k hk value hfound
    cases value with
    | number n => rfl
    | _ => cases hweight

/-- Weights that were read are read again from the table that they make up. -/
theorem readWeights_tableJson (hall : ∀ k, k ∈ keys)
    (hfirst : ∀ k ∈ keys, keys.find? (key · == key k) = some k)
    (hstandard : ∀ k ∈ keys, isWeight (.number (standard k)) = true)
    (h : readWeights table keys key standard needed override = .ok weights) :
    readWeights table keys key standard needed (tableJson keys key (.number <| weights ·)) =
      .ok weights := by
  have hget (k : κ) : (tableJson keys key (.number <| weights ·)).get? (key k) =
      some (.number (weights k)) := by
    rw [get?_tableJson, hfirst k (hall k), Option.map_some]
  obtain ⟨hread, -, hweights, hneeded⟩ := readWeights_eq_ok_iff.mp h
  refine readWeights_eq_ok_iff.mpr ⟨?_, ?_, fun k hk value hvalue => ?_, hneeded⟩
  · funext k
    rw [weightFrom, hget]
  · intro member hmember
    obtain ⟨k, hk, rfl⟩ := List.mem_map.mp hmember
    exact List.mem_map_of_mem hk
  · rw [hget, Option.some.injEq] at hvalue
    rw [← hvalue, ← hread, weightFrom]
    split
    next n hfound => exact hweights k hk _ hfound
    next => exact hstandard k hk

end Weights

section Severities

/-- The severities of variable problems as members of their table. -/
def severityMembers (severities : List (String × Severity)) : List (String × Json) :=
  severities.map fun (key, severity) => (key, .string severity.name)

variable {override : Json} {severities : List (String × Severity)}

theorem eq_string_of_severity? {value : Json} {severity : Severity}
    (h : severity? value = some severity) : value = .string severity.name := by
  cases value with
  | string s =>
    have hname : (severity.name == s) = true :=
      List.find?_some (p := fun other : Severity => other.name == s) h
    rw [beq_iff_eq.mp hname]
  | _ => cases h

/-- The member that is read as the severity of a category. -/
private def readSeverity : String × Json → Except Error (String × Severity)
  | (key, value) => match severity? value with
    | some severity => .ok (key, severity)
    | none => .error (.badSeverity key)

private theorem readSeverities_eq (override : Json) :
    readSeverities override =
      (Json.assignAll (severityMembers defaultVariableSeverities) override.members).mapM
        readSeverity := rfl

/-- What is read as severities are the members of the override assigned to the default ones. -/
theorem severityMembers_of_readSeverities (h : readSeverities override = .ok severities) :
    severityMembers severities =
      Json.assignAll (severityMembers defaultVariableSeverities) override.members := by
  rw [readSeverities_eq] at h
  refine map_eq_of_mapM h fun member found hfound => ?_
  obtain ⟨key, value⟩ := member
  rw [readSeverity] at hfound
  split at hfound
  next severity hseverity =>
    cases hfound
    rw [eq_string_of_severity? hseverity]
  next => cases hfound

/-- What is read as severities is the override merged over the default ones. -/
theorem get?_of_readSeverities (h : readSeverities override = .ok severities)
    (hkeys : (override.members.map (·.1)).Nodup) (name : String) :
    (Json.object (severityMembers severities)).get? name =
      (override.get? name).or
        ((Json.object (severityMembers defaultVariableSeverities)).get? name) := by
  have hget : override.get? name = override.members.lookup name := by cases override <;> rfl
  change (severityMembers severities).lookup name = _
  rw [severityMembers_of_readSeverities h, Json.lookup_assignAll, hget,
    ← Json.lookup_eq_of_perm hkeys (List.reverse_perm _).symm]
  rfl

/-- Severities that were read are read again from the table that they make up. -/
theorem readSeverities_severityMembers (h : readSeverities override = .ok severities) :
    readSeverities (.object (severityMembers severities)) = .ok severities := by
  have hstandard : ((severityMembers defaultVariableSeverities).map (·.1)).Nodup := by decide
  have hself : Json.assignAll (severityMembers defaultVariableSeverities)
      (severityMembers severities) = severityMembers severities := by
    rw [severityMembers_of_readSeverities h]
    exact Json.assignAll_eq_self (Json.nodup_keys_assignAll hstandard _)
      (Json.prefix_keys_assignAll ..)
  rw [readSeverities_eq, Json.members, hself, severityMembers_of_readSeverities h,
    ← readSeverities_eq, h]

end Severities

section Accepted

variable {overrides : Json} {config : Config}

theorem get?_tableOf (overrides : Json) (field key : String) :
    (tableOf overrides field).get? key = (overrides.get field).get? key := by
  rw [tableOf, Json.get]
  cases overrides.get? field <;> rfl

theorem nodup_keys_tableOf (hkeys : overrides.hasDistinctKeys = true) (field : String) :
    ((tableOf overrides field).members.map (·.1)).Nodup := by
  have hmembers (value : Json) (h : value.hasDistinctKeys = true) :
      (value.members.map (·.1)).Nodup := by
    cases value with
    | object members => exact (Json.hasDistinctKeys_object.mp h).1
    | _ => exact List.nodup_nil
  have hget := Json.hasDistinctKeys_get hkeys field
  rw [Json.get] at hget
  rw [tableOf]
  cases hfound : overrides.get? field with
  | none => exact List.nodup_nil
  | some value =>
    rw [hfound] at hget
    exact hmembers value hget

/-- What are read as thresholds are the override merged over the default ones. -/
theorem get?_of_readThresholds {thresholds : Severity → Json}
    (h : readThresholds (tableOf overrides "status_thresholds") = .ok thresholds) (name : String) :
    (tableJson severityOrder (·.name) thresholds).get? name =
      ((tableOf overrides "status_thresholds").get? name).or
        ((tableJson severityOrder (·.name) defaultStatusThresholds).get? name) := by
  obtain ⟨rfl, hknown, -⟩ := readThresholds_eq_ok_iff.mp h
  refine get?_tableJson_eq_or (fun _ _ => rfl) (fun member hmember => ?_) name
  obtain ⟨severity, hseverity⟩ := Option.isSome_iff_exists.mp (hknown member hmember)
  have hname : (severity.name == member.1) = true :=
    List.find?_some (p := fun other : Severity => other.name == member.1) hseverity
  exact List.mem_map.mpr ⟨severity, mem_severityOrder severity, beq_iff_eq.mp hname⟩

theorem get?_of_readLimit {field : String} {standard limit : Nat} {override : Option Json}
    (h : readLimit field standard override = .ok limit) :
    some (.nat limit) = override.or (some (.nat standard)) := by
  unfold readLimit at h
  split at h
  · cases h
    rfl
  · split at h
    · cases h
    next n hn =>
      cases h
      rw [Option.some_or, Json.nat, Int.toNat_of_nonneg (Int.not_lt.mp hn)]
  · cases h

theorem merges_of_read (hkeys : overrides.hasDistinctKeys = true) (h : Read overrides config) :
    Merges overrides config := by
  constructor
  · intro field hfield key
    rw [← get?_tableOf overrides]
    simp only [tableFields, List.mem_cons, List.not_mem_nil, or_false] at hfield
    rcases hfield with rfl | rfl | rfl | rfl | rfl | rfl
    · exact get?_of_readWeights h.scoreWeights key
    · exact get?_of_readWeights h.triggerWeights key
    · exact get?_of_readWeights h.variableWeights key
    · exact get?_of_readWeights h.htmlSeverityWeights key
    · exact get?_of_readSeverities h.variableSeverities (nodup_keys_tableOf hkeys _) key
    · exact get?_of_readThresholds h.statusThresholds key
  · intro field hfield hother
    simp only [fields, tableFields, List.mem_append, List.mem_cons, List.not_mem_nil, or_false,
      not_or] at hfield hother
    rcases hfield.resolve_left (by simpa using hother) with rfl | rfl | rfl | rfl | rfl | rfl
    · change some config.spaPenaltyScore = (overrides.get? "spa_penalty_score").or _
      rw [← (readPenalty_eq_ok_iff.mp h.spaPenaltyScore).1, penaltyOf]
      cases overrides.get? "spa_penalty_score" <;> rfl
    · exact get?_of_readLimit h.minTimerInterval
    · exact get?_of_readLimit h.maxStatementsWithoutTry
    · exact get?_of_readLimit h.maxParameterDepth
    · exact get?_of_readLimit h.nameMinLength
    · exact get?_of_readLimit h.nameMaxLength

theorem shaped_toJson (config : Config) : Shaped config.toJson := by
  refine ⟨rfl, ?_, ?_⟩
  · simp [toJson, Json.members, fields, tableFields]
  · simp [toJson, Json.members, tableFields, Json.isObject, tableJson]

theorem readThresholds_toJson
    (h : readThresholds (tableOf overrides "status_thresholds") = .ok config.statusThresholds) :
    readThresholds (tableOf config.toJson "status_thresholds") = .ok config.statusThresholds := by
  obtain ⟨-, -, hlow, hhigh⟩ := readThresholds_eq_ok_iff.mp h
  refine readThresholds_eq_ok_iff.mpr ⟨?_, ?_, hlow, hhigh⟩
  · funext severity
    cases severity <;> rfl
  · intro member hmember
    obtain ⟨severity, -, rfl⟩ := List.mem_map.mp hmember
    cases severity <;> rfl

theorem readLimit_nat (field : String) (standard limit : Nat) :
    readLimit field standard (some (.nat limit)) = .ok limit := by
  rw [Json.nat, readLimit, if_neg (Int.not_lt.mpr (Int.natCast_nonneg limit)), Int.toNat_natCast]

/-- A configuration that was read is read again from the value that it is written as. -/
theorem read_toJson (h : Read overrides config) : Read config.toJson config where
  shaped := shaped_toJson config
  scoreWeights :=
    readWeights_tableJson Dimension.mem_all (by decide) (by decide +kernel) h.scoreWeights
  triggerWeights :=
    readWeights_tableJson TriggerAspect.mem_all (by decide) (by decide +kernel) h.triggerWeights
  variableWeights :=
    readWeights_tableJson VariableAspect.mem_byWeight (by decide) (by decide +kernel)
      h.variableWeights
  htmlSeverityWeights :=
    readWeights_tableJson mem_severityOrder (by decide) (by decide +kernel)
      h.htmlSeverityWeights
  variableSeverities := readSeverities_severityMembers h.variableSeverities
  statusThresholds := readThresholds_toJson h.statusThresholds
  spaPenaltyScore := by
    obtain ⟨hpenalty, hrange⟩ := readPenalty_eq_ok_iff.mp h.spaPenaltyScore
    rw [hpenalty] at hrange
    exact readPenalty_eq_ok_iff.mpr ⟨rfl, hrange⟩
  minTimerInterval := readLimit_nat ..
  maxStatementsWithoutTry := readLimit_nat ..
  maxParameterDepth := readLimit_nat ..
  nameMinLength := readLimit_nat ..
  nameMaxLength := readLimit_nat ..
  lengths := h.lengths

theorem hasWeights (config : Config) : HasWeights config where
  scoreWeights dimension := by cases dimension <;> rfl
  triggerWeights aspect := by cases aspect <;> rfl
  variableWeights aspect := by cases aspect <;> rfl
  htmlSeverityWeights severity := by cases severity <;> rfl

end Accepted

/-- An accepted configuration is the default one with the overrides merged in, its tables hold all
weights that are looked up, and it is accepted again as it is. -/
theorem reread_of_accepted {overrides : Json} {config : Config}
    (hkeys : overrides.hasDistinctKeys = true) (accepted : ofJson overrides = .ok config) :
    ofJson config.toJson = .ok config ∧ Merges overrides config ∧ HasWeights config :=
  have h := ofJson_eq_ok_iff.mp accepted
  ⟨ofJson_eq_ok_iff.mpr (read_toJson h), merges_of_read hkeys h, hasWeights config⟩

/-- A weight, a severity of a category of its own and a truth value for the penalty. -/
def mixedOverrides : Json :=
  .object [("score_weights", .object [("tags", .nat 1)]),
    ("variable_severities", .object [("renamed", .string "major")]),
    ("spa_penalty_score", .bool true)]

theorem reread_mixedOverrides :
    mixedOverrides.hasDistinctKeys = true ∧ ∃ config, ofJson mixedOverrides = .ok config ∧
      ofJson config.toJson = .ok config ∧ Merges mixedOverrides config ∧ HasWeights config := by
  have hkeys : mixedOverrides.hasDistinctKeys = true := by decide
  obtain ⟨config, accepted⟩ :=
    exists_of_isOk (e := ofJson mixedOverrides) (by decide +kernel)
  exact ⟨hkeys, config, accepted, reread_of_accepted hkeys accepted⟩

end TagAudit.Config
