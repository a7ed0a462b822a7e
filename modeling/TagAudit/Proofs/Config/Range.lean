import TagAudit.Proofs.Config.Reading
import TagAudit.Proofs.Number.Range

/-!
# The range of weights

Weights are multiplied by scores and counted for findings, and most of this happens in double
precision. A configuration is representable if no integer that comes of its weights is too large
for that. The weights that overrides give are representable if no integer among the overrides is
larger than `2 ^ 960`, which leaves room for as many findings as any memory holds.
-/

namespace TagAudit

namespace Json

mutual

/-- Is every integer in the value at most `bound` in magnitude? -/
def integersWithin (bound : ℕ) : Json → Bool
  | number n => n.isWithin bound
  | array xs => itemsWithin bound xs
  | object ms => membersWithin bound ms
  | _ => true

/-- Is every integer in the items at most `bound` in magnitude? -/
def itemsWithin (bound : ℕ) : List Json → Bool
  | [] => true
  | x :: xs => integersWithin bound x && itemsWithin bound xs

/-- Is every integer in the values of the members at most `bound` in magnitude? -/
def membersWithin (bound : ℕ) : List (String × Json) → Bool
  | [] => true
  | (_, value) :: rest => integersWithin bound value && membersWithin bound rest

end

variable {bound : ℕ}

theorem integersWithin_of_mem {ms : List (String × Json)}
    (h : (object ms).integersWithin bound = true) {m : String × Json} (hm : m ∈ ms) :
    m.2.integersWithin bound = true := by
  rw [integersWithin] at h
  induction ms with
  | nil => cases hm
  | cons n ms ih =>
    rw [membersWithin, Bool.and_eq_true] at h
    rcases List.mem_cons.mp hm with rfl | hm
    · exact h.1
    · exact ih h.2 hm

/-- What a key of a value holds has no larger integers than the value. -/
theorem integersWithin_of_get? {value v : Json} {key : String}
    (h : value.integersWithin bound = true) (hv : value.get? key = some v) :
    v.integersWithin bound = true := by
  cases value with
  | object ms =>
    obtain ⟨before, after, rfl, -⟩ := List.lookup_eq_some_iff.mp hv
    have hmember : (key, v) ∈ before ++ (key, v) :: after := by simp
    exact integersWithin_of_mem h hmember
  | _ => cases hv

end Json

namespace Config

/-- All weights of a configuration. -/
def weights (config : Config) : List Number :=
  Dimension.all.map config.scoreWeights ++ TriggerAspect.all.map config.triggerWeights ++
    VariableAspect.byWeight.map config.variableWeights ++
    severityOrder.map config.htmlSeverityWeights

theorem mem_weights_iff {config : Config} {x : Number} : x ∈ config.weights ↔
    (∃ dimension, config.scoreWeights dimension = x) ∨
    (∃ aspect, config.triggerWeights aspect = x) ∨
    (∃ aspect, config.variableWeights aspect = x) ∨
    ∃ severity, config.htmlSeverityWeights severity = x := by
  simp only [weights, List.mem_append, List.mem_map, Dimension.mem_all, TriggerAspect.mem_all,
    VariableAspect.mem_byWeight, mem_severityOrder, true_and, or_assoc]

/-- The largest integer that weights are followed up to. -/
def largestInteger : ℕ := 2 ^ 960

/-- The most things that weights are counted for, more than any list in a memory has members. -/
def mostCounted : ℕ := 2 ^ 62

/-- Whatever weights are added up, each as often as things are counted, the sum has a double: no
computation with the weights ends because an integer is too large. -/
def Representable (config : Config) : Prop :=
  ∀ terms : List (ℕ × Number), (∀ term ∈ terms, term.2 ∈ config.weights) →
    (terms.map (·.1)).sum ≤ mostCounted → (Scalar.sum (Number.multiples terms)).HasDouble

theorem representable_of_isWithin {config : Config}
    (h : ∀ x ∈ config.weights, x.isWithin largestInteger = true) : config.Representable := by
  intro terms hterms hcount
  refine Number.hasDouble_of_isWithin
    (Number.isWithin_sum_multiples fun term hterm => h _ (hterms term hterm)) ?_
  calc (terms.map (·.1)).sum * largestInteger
      ≤ mostCounted * largestInteger := Nat.mul_le_mul_right _ hcount
    _ < 2 ^ 1023 := by decide +kernel

/-- The default weights are in double precision. -/
theorem representable_default : default.Representable :=
  representable_of_isWithin (by decide +kernel)

/-- A weight that is read has no larger integer than the overrides and the defaults. -/
theorem isWithin_of_readWeights {κ : Type} {table : String} {keys : List κ} {key : κ → String}
    {standard : κ → Number} {needed : Bool} {override : Json} {weights : κ → Number} {bound : ℕ}
    (h : readWeights table keys key standard needed override = .ok weights)
    (hoverride : override.integersWithin bound = true)
    (hstandard : ∀ k, (standard k).isWithin bound = true) (k : κ) :
    (weights k).isWithin bound = true := by
  obtain ⟨rfl, -⟩ := readWeights_eq_ok_iff.mp h
  rw [weightFrom]
  split
  next n hn => exact Json.integersWithin_of_get? hoverride hn
  next => exact hstandard k

theorem integersWithin_tableOf {overrides : Json} {bound : ℕ}
    (h : overrides.integersWithin bound = true) (name : String) :
    (tableOf overrides name).integersWithin bound = true := by
  rw [tableOf]
  cases htable : overrides.get? name with
  | none => rfl
  | some table => exact Json.integersWithin_of_get? h htable

/-- A configuration from overrides without large integers is representable. -/
theorem representable_of_ofJson {overrides : Json} {config : Config}
    (haccepted : ofJson overrides = .ok config)
    (h : overrides.integersWithin largestInteger = true) : config.Representable := by
  have hread : Read overrides config := ofJson_eq_ok_iff.mp haccepted
  have htable := integersWithin_tableOf h
  refine representable_of_isWithin fun x hx => ?_
  rcases mem_weights_iff.mp hx with ⟨k, rfl⟩ | ⟨k, rfl⟩ | ⟨k, rfl⟩ | ⟨k, rfl⟩
  · exact isWithin_of_readWeights hread.scoreWeights (htable _) (fun k => by cases k <;> rfl) k
  · exact isWithin_of_readWeights hread.triggerWeights (htable _) (fun k => by cases k <;> rfl) k
  · exact isWithin_of_readWeights hread.variableWeights (htable _) (fun k => by cases k <;> rfl) k
  · exact isWithin_of_readWeights hread.htmlSeverityWeights (htable _)
      (fun k => by cases k <;> rfl) k

end Config

end TagAudit
