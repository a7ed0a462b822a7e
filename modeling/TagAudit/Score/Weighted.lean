import TagAudit.AnalysisError
import TagAudit.Number
import TagAudit.Severity
import TagAudit.Json.Basic

/-!
# Weighted scores

The weighted mean of scores between zero and one, the score of a share of flagged things, and the
status that thresholds give to a score. The formulas hold in the program's own arithmetic and in
exact rationals alike.
-/

namespace TagAudit.Score

variable {α : Type} [Scalar α]

/-- The weighted mean of pairs of a weight and a score, moved between zero and one; zero where
there is no weight. -/
def weightedMean (parts : List (α × α)) : α :=
  let total := Scalar.sum (parts.map (·.1))
  if Scalar.le total (Scalar.ofNat 0) then Scalar.decimal 0 0
  else
    Scalar.clamp (Scalar.decimal 0 0) (Scalar.decimal 1 0)
      (Scalar.sum (parts.map fun (weight, score) => weight * score) / total)

/-- One less the share of `flagged` things among `total`, but not below zero. -/
def shareLeft (flagged total : Nat) : α :=
  Scalar.atLeast (Scalar.decimal 0 0) (Scalar.ofNat 1 - Scalar.ofNat flagged / Scalar.ofNat total)

/-- The share left among `count` things, one where there are none. -/
def shareLeftOf (flagged count : Nat) : α :=
  if count = 0 then Scalar.decimal 1 0 else shareLeft flagged count

/-- Is a score below a threshold? -/
def isBelow (score : Number) (threshold : Json) : Except AnalysisError Bool :=
  match threshold.number? with
  | some limit => .ok (score.lt limit)
  | none => .error .incomparable

/-- The status of the first threshold that lies above a score, from the most serious on. -/
def status (score : Number) (thresholds : Severity → Json) : Except AnalysisError Status := do
  if ← isBelow score (thresholds .critical) then return some .critical
  if ← isBelow score (thresholds .major) then return some .major
  if ← isBelow score (thresholds .minor) then return some .minor
  return none

end TagAudit.Score
