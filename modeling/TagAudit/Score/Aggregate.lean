import TagAudit.Config.Basic
import TagAudit.Log
import TagAudit.Score.Weighted

/-!
# Quality score

The values of the dimensions, each between zero and one hundred, combine into one score by their
weights. A dimension without a value is left out, and the weights of the others share its part.
The score is rounded to one place.
-/

namespace TagAudit

namespace Score

variable {α : Type} [Scalar α]

/-- The percentage of clean things; there is nothing unclean where there are none. -/
def cleanliness (total clean : Int) : α :=
  if total ≤ 0 then Scalar.decimal 100 0
  else Scalar.ofNumber (.int clean) / Scalar.ofNumber (.int total) * Scalar.ofNat 100

/-- A score between zero and one as a percentage. -/
def percentage (score : α) : α := score * Scalar.ofNat 100

/-- The value that counts for a dimension. -/
def bounded (value : α) : α := Scalar.clamp (Scalar.decimal 0 0) (Scalar.decimal 100 0) value

/-- The sum of the weights of the dimensions that have a value. -/
def availableWeight (weights : Dimension → α) (values : Dimension → Option α) : α :=
  Scalar.sum ((Dimension.all.filter fun dimension => (values dimension).isSome).map weights)

/-- The part of a weight in the weights of all dimensions with a value. -/
def share (available weight : α) : α :=
  if Scalar.lt (Scalar.ofNat 0) available then weight / available else Scalar.decimal 0 0

/-- What a dimension adds to the score, if it has a value. -/
def contribution? (weights : Dimension → α) (values : Dimension → Option α)
    (dimension : Dimension) : Option α :=
  (values dimension).map fun value =>
    bounded value * share (availableWeight weights values) (weights dimension)

/-- The score before rounding. -/
def total (weights : Dimension → α) (values : Dimension → Option α) : α :=
  if Scalar.le (availableWeight weights values) (Scalar.ofNat 0) then Scalar.decimal 0 0
  else Scalar.sum (Dimension.all.filterMap (contribution? weights values))

end Score

/-- The weights and the values that make up a quality score. -/
structure QualityScore where
  weights : Dimension → Number
  values : Dimension → Option Number

namespace QualityScore

/-- The rounded score. -/
def total (score : QualityScore) : Number :=
  Score.bounded ((Score.total score.weights score.values).roundTo 1)

/-- The dimensions without a value. -/
def unavailable (score : QualityScore) : List Dimension :=
  Dimension.all.filter fun dimension => (score.values dimension).isNone

/-- What a dimension has to do with the score, rounded for presentation. -/
structure Row where
  dimension : Dimension
  value : Number
  weight : Number
  /-- Does the dimension have a value? -/
  available : Bool
  contribution : Number
  deriving DecidableEq, Repr

/-- The row of a dimension; one without a value shows zeros. -/
def row (score : QualityScore) (dimension : Dimension) : Row :=
  let value := (score.values dimension).map fun value => (Score.bounded value).roundTo 1
  let contribution :=
    (Score.contribution? score.weights score.values dimension).map (·.roundTo 2)
  let zero := Number.decimal 0 0
  ⟨dimension, value.getD zero, score.weights dimension, value.isSome, contribution.getD zero⟩

/-- The rows of all dimensions. -/
def rows (score : QualityScore) : List Row := Dimension.all.map score.row

/-- A row as a value. -/
def Row.toJson (row : Row) : Json :=
  .object [("key", .string row.dimension.key), ("label", .string row.dimension.label),
    ("value", .number row.value), ("weight", .number row.weight),
    ("available", .bool row.available), ("contribution", .number row.contribution)]

/-- The score as a value. -/
def toJson (score : QualityScore) : Json :=
  .object [("total", .number score.total),
    ("breakdown", .array (score.rows.map Row.toJson)),
    ("unavailable", .strings (score.unavailable.map (·.key)))]

/-- What the log says about the score: which dimensions are left out. -/
def log (score : QualityScore) : List LogRecord :=
  if score.unavailable.isEmpty then []
  else [⟨.warning, "gtm_quality_score", "Quality score computed without: " ++
    ", ".intercalate (score.unavailable.map (·.key))⟩]

end QualityScore

end TagAudit
