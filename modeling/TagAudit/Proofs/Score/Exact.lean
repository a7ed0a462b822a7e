import Mathlib.Algebra.BigOperators.Group.List.Basic
import TagAudit.Proofs.Number.Order

/-!
# Exact arithmetic

The formulas of the scores read over the rationals. A number that is not finite and a division by
zero have no exact value. Such an undefined value is never lost on the way: an operation keeps it,
and a comparison with it comes out so that choosing the lesser or the greater of two values keeps it
as well. A formula with a rational result has therefore met neither.
-/

namespace TagAudit

/-- An exact rational, or the mark of an operation that has none. -/
inductive Exact
  | undefined
  | rational (value : ℚ)
  deriving DecidableEq

namespace Exact

/-- An operation on rationals, undefined where an operand is. -/
def lift (op : ℚ → ℚ → ℚ) : Exact → Exact → Exact
  | rational a, rational b => rational (op a b)
  | _, _ => undefined

/-- The quotient, undefined where the divisor is zero. -/
def div : Exact → Exact → Exact
  | rational a, rational b => if b = 0 then undefined else rational (a / b)
  | _, _ => undefined

/-- The exact value of a number, where it is finite. -/
def ofNumber (n : Number) : Exact := (n.value?.map rational).getD undefined

/-- Is the first value below the second? Of an undefined value this is always said. -/
def lt : Exact → Exact → Bool
  | rational a, rational b => decide (a < b)
  | _, _ => true

/-- Is the first value at most the second? Of an undefined value this is never said. -/
def le : Exact → Exact → Bool
  | rational a, rational b => decide (a ≤ b)
  | _, _ => false

end Exact

instance : Scalar Exact where
  add := Exact.lift (· + ·)
  sub := Exact.lift (· - ·)
  mul := Exact.lift (· * ·)
  div := Exact.div
  ofNumber := Exact.ofNumber
  lt := Exact.lt
  le := Exact.le

namespace Exact

@[simp] theorem add_rational (a b : ℚ) : rational a + rational b = rational (a + b) := rfl

@[simp] theorem sub_rational (a b : ℚ) : rational a - rational b = rational (a - b) := rfl

@[simp] theorem mul_rational (a b : ℚ) : rational a * rational b = rational (a * b) := rfl

theorem div_rational (a : ℚ) {b : ℚ} (hb : b ≠ 0) : rational a / rational b = rational (a / b) :=
  if_neg hb

@[simp] theorem lt_rational (a b : ℚ) :
    Scalar.lt (rational a) (rational b) = decide (a < b) := rfl

@[simp] theorem le_rational (a b : ℚ) :
    Scalar.le (rational a) (rational b) = decide (a ≤ b) := rfl

/-- A finite number stands for its value. -/
theorem ofNumber_eq {n : Number} {a : ℚ} (h : n.value? = some a) :
    (Scalar.ofNumber n : Exact) = rational a := by
  change (n.value?.map rational).getD undefined = _
  rw [h]
  rfl

@[simp] theorem ofInt_eq (n : ℤ) : (Scalar.ofNumber (.int n) : Exact) = rational n :=
  ofNumber_eq (Number.value?_int n)

@[simp] theorem ofNat_eq (n : ℕ) : (Scalar.ofNat n : Exact) = rational n := by
  rw [Scalar.ofNat, ofInt_eq, Int.cast_natCast]

/-- The decimals zero, one and a hundred are exact in double precision. -/
@[simp] theorem decimal_zero : (Scalar.decimal 0 0 : Exact) = rational 0 := by
  refine ofNumber_eq ?_
  have hplace : (Number.decimal 0 0).place = .dyadic 0 (-1074) := by decide +kernel
  rw [Number.value?, hplace, Number.Place.value?, Int.cast_zero, zero_mul]

@[simp] theorem decimal_one : (Scalar.decimal 1 0 : Exact) = rational 1 := by
  refine ofNumber_eq ?_
  have hplace : (Number.decimal 1 0).place = .dyadic 4503599627370496 (-52) := by decide +kernel
  rw [Number.value?, hplace, Number.Place.value?]
  norm_num

@[simp] theorem decimal_hundred : (Scalar.decimal 100 0 : Exact) = rational 100 := by
  refine ofNumber_eq ?_
  have hplace : (Number.decimal 100 0).place = .dyadic 7036874417766400 (-46) := by decide +kernel
  rw [Number.value?, hplace, Number.Place.value?]
  norm_num

/-- The sum of rationals is their rational sum. -/
theorem sum_map_rational {κ : Type} (keys : List κ) (f : κ → ℚ) :
    Scalar.sum (keys.map fun k => rational (f k)) = rational (keys.map f).sum := by
  have hfold : ∀ start : ℚ, (keys.map fun k => rational (f k)).foldl (· + ·) (rational start) =
      rational (start + (keys.map f).sum) := by
    induction keys with
    | nil => simp
    | cons k keys ih =>
      intro start
      rw [List.map_cons, List.foldl_cons, add_rational, ih, List.map_cons, List.sum_cons, add_assoc]
  rw [Scalar.sum, ofNat_eq, hfold, Nat.cast_zero, zero_add]

section Clamps

theorem atLeast_rational (least a : ℚ) :
    Scalar.atLeast (rational least) (rational a) = rational (max least a) := by
  by_cases h : least < a
  · simp [Scalar.atLeast, h, max_eq_right h.le]
  · simp [Scalar.atLeast, h, max_eq_left (not_lt.mp h)]

theorem atMost_rational (most a : ℚ) :
    Scalar.atMost (rational most) (rational a) = rational (min most a) := by
  by_cases h : a < most
  · simp [Scalar.atMost, h, min_eq_right h.le]
  · simp [Scalar.atMost, h, min_eq_left (not_lt.mp h)]

/-- A value inside the bounds is left alone. -/
theorem clamp_rational {least most a : ℚ} (hleast : least ≤ a) (hmost : a ≤ most) :
    Scalar.clamp (rational least) (rational most) (rational a) = rational a := by
  rw [Scalar.clamp, atLeast_rational, atMost_rational, max_eq_right hleast, min_eq_right hmost]

end Clamps

end Exact

end TagAudit
