import Mathlib.Order.Compare
import TagAudit.Number
import TagAudit.Proofs.Binary64.Shortest

/-!
# The order of numbers

Two numbers on the extended line compare both ways alike, so that one is at most the other unless
it is greater. A finite number has an exact rational value, and finite numbers are ordered as their
values are. The undefined number is on no place of the line and in order with nothing.
-/

namespace TagAudit.Number

namespace Place

/-- The value of a place that is finite. -/
def value? : Place → Option ℚ
  | dyadic coefficient exponent => some (coefficient * 2 ^ exponent)
  | _ => none

/-- Places compare the other way round in the other order. -/
theorem compare?_swap (x y : Place) : y.compare? x = (x.compare? y).map Ordering.swap := by
  have hswap (a b : Int) : (compare a b).swap = compare b a := Int.instTransOrd.eq_swap.symm
  cases x with
  | nowhere => cases y <;> rfl
  | infinite a =>
    cases y with
    | nowhere => rfl
    | infinite b => cases a <;> cases b <;> rfl
    | dyadic n q => cases a <;> rfl
  | dyadic m p =>
    cases y with
    | nowhere => rfl
    | infinite b => cases b <;> rfl
    | dyadic n q =>
      simp only [compare?, Option.map_some, hswap, Int.min_comm]

/-- Places on the line compare. -/
theorem exists_compare?_eq {x y : Place} (hx : x ≠ nowhere) (hy : y ≠ nowhere) :
    ∃ order, x.compare? y = some order := by
  cases x with
  | nowhere => exact absurd rfl hx
  | infinite a =>
    cases y with
    | nowhere => exact absurd rfl hy
    | infinite b => exact ⟨_, rfl⟩
    | dyadic n q => exact ⟨_, rfl⟩
  | dyadic m p =>
    cases y with
    | nowhere => exact absurd rfl hy
    | infinite b => exact ⟨_, rfl⟩
    | dyadic n q => exact ⟨_, rfl⟩

/-- A dyadic place counted in units below it. -/
theorem zpow_split {p low : ℤ} (h : low ≤ p) (m : ℤ) :
    (m * 2 ^ p : ℚ) = (m * twoPow (p - low).toNat : ℤ) * 2 ^ low := by
  have hp : p = ((p - low).toNat : ℤ) + low := by omega
  rw [Int.cast_mul, Int.cast_natCast, cast_twoPow, mul_assoc, ← zpow_natCast,
    ← zpow_add₀ two_ne_zero, ← hp]

/-- Finite places compare as their values do. -/
theorem compare?_of_value? {x y : Place} {a b : ℚ} (hx : x.value? = some a)
    (hy : y.value? = some b) : x.compare? y = some (compare a b) := by
  cases x with
  | nowhere => cases hx
  | infinite _ => cases hx
  | dyadic m p =>
    cases y with
    | nowhere => cases hy
    | infinite _ => cases hy
    | dyadic n q =>
      cases hx
      cases hy
      -- both coefficients are counted in the smaller of the two units
      let low := min p q
      let left : ℤ := m * twoPow (p - low).toNat
      let right : ℤ := n * twoPow (q - low).toNat
      have hleft : (m * 2 ^ p : ℚ) = left * 2 ^ low := zpow_split (Int.min_le_left ..) m
      have hright : (n * 2 ^ q : ℚ) = right * 2 ^ low := zpow_split (Int.min_le_right ..) n
      have hpos : (0 : ℚ) < 2 ^ low := zpow_pos two_pos low
      change some (compare left right) = _
      rw [hleft, hright]
      congr 1
      rcases lt_trichotomy left right with h | h | h
      · have hcast : (left * 2 ^ low : ℚ) < right * 2 ^ low := by
          exact (mul_lt_mul_iff_left₀ hpos).mpr (Int.cast_lt.mpr h)
        rw [compare_lt_iff_lt.mpr h, compare_lt_iff_lt.mpr hcast]
      · rw [h, compare_eq_iff_eq.mpr rfl, compare_eq_iff_eq.mpr rfl]
      · have hcast : (right * 2 ^ low : ℚ) < left * 2 ^ low := by
          exact (mul_lt_mul_iff_left₀ hpos).mpr (Int.cast_lt.mpr h)
        rw [compare_gt_iff_gt.mpr h, compare_gt_iff_gt.mpr hcast]

end Place

/-- The value of a number that is finite. -/
def value? (x : Number) : Option ℚ := x.place.value?

section Values

variable {x y : Number} {a b : ℚ}

/-- Finite numbers are ordered as their values are. -/
theorem lt_iff (hx : x.value? = some a) (hy : y.value? = some b) : x.lt y = true ↔ a < b := by
  rw [lt, compare?, Place.compare?_of_value? hx hy, beq_iff_eq, Option.some_inj,
    compare_lt_iff_lt]

theorem le_iff (hx : x.value? = some a) (hy : y.value? = some b) : x.le y = true ↔ a ≤ b := by
  have heq : (x.compare? y == some .eq) = true ↔ a = b := by
    rw [compare?, Place.compare?_of_value? hx hy, beq_iff_eq, Option.some_inj,
      compare_eq_iff_eq]
  rw [le, Bool.or_eq_true, lt_iff hx hy, heq, le_iff_lt_or_eq]

@[simp] theorem value?_int (n : ℤ) : (int n).value? = some (n : ℚ) := by
  simp [value?, place, Place.value?]

end Values

/-- Of two numbers on the line one is at most the other unless it is greater. -/
theorem le_eq_not_lt {x y : Number} (hx : x.place ≠ .nowhere) (hy : y.place ≠ .nowhere) :
    x.le y = !y.lt x := by
  obtain ⟨order, horder⟩ := Place.exists_compare?_eq hx hy
  have hswap : y.compare? x = some order.swap := by
    rw [compare?, Place.compare?_swap, horder]
    rfl
  rw [le, lt, lt, hswap, compare?, horder]
  cases order <;> rfl

/-- A number between two finite ones is finite. -/
theorem exists_value?_of_between {low x high : Number} {a b : ℚ} (hlow : low.value? = some a)
    (hhigh : high.value? = some b) (hl : low.le x = true) (hh : x.le high = true) :
    ∃ c, x.value? = some c ∧ a ≤ c ∧ c ≤ b := by
  have hdyadic {y : Number} {c : ℚ} (hy : y.value? = some c) :
      ∃ m q, y.place = .dyadic m q := by
    rw [value?] at hy
    cases hplace : y.place with
    | dyadic m q => exact ⟨m, q, rfl⟩
    | _ => rw [hplace] at hy; cases hy
  obtain ⟨m, p, hm⟩ := hdyadic hlow
  obtain ⟨n, q, hn⟩ := hdyadic hhigh
  rw [le, lt, compare?, hm] at hl
  rw [le, lt, compare?, hn] at hh
  cases hplace : x.place with
  | nowhere => rw [hplace] at hl; cases hl
  | infinite negative =>
    rw [hplace] at hl hh
    cases negative with
    | false => cases hh
    | true => cases hl
  | dyadic k r =>
    have hx : x.value? = some ((k : ℚ) * 2 ^ r) := by rw [value?, hplace, Place.value?]
    refine ⟨_, hx, (le_iff hlow hx).mp ?_, (le_iff hx hhigh).mp ?_⟩
    · rw [le, lt, compare?, hm]
      exact hl
    · rw [le, lt, compare?, hn]
      exact hh

/-- Only the undefined number is on no place of the line. -/
theorem place_eq_nowhere_iff {x : Number} : x.place = .nowhere ↔ x = float .nan := by
  cases x with
  | int n => simp [place]
  | float y => cases y <;> simp [place]

section Zero

/-- A finite number is zero exactly if its value is. -/
theorem isZero_iff_of_value? {x : Number} {a : ℚ} (hx : x.value? = some a) :
    x.isZero = true ↔ a = 0 := by
  rw [isZero, same, compare?, Place.compare?_of_value? hx (value?_int 0), beq_iff_eq,
    Option.some_inj, compare_eq_iff_eq, Int.cast_zero]

/-- A number is zero if it is the integer zero or a zero of either sign. -/
theorem isZero_iff {x : Number} :
    x.isZero = true ↔ x = int 0 ∨ ∃ negative, x = float (.zero negative) := by
  cases x with
  | int n =>
    rw [isZero_iff_of_value? (value?_int n), Int.cast_eq_zero]
    simp
  | float y =>
    cases y with
    | nan => simp [isZero, same, compare?, place, Place.compare?, Binary64.zero]
    | infinite negative =>
      cases negative <;> simp [isZero, same, compare?, place, Place.compare?, Binary64.zero]
    | finite negative m q canonical =>
      have hvalue : (float (.finite negative m q canonical)).value? =
          some ((Binary64.signed negative m : ℚ) * 2 ^ q) := rfl
      have hpower : (2 ^ q : ℚ) ≠ 0 := zpow_ne_zero q two_ne_zero
      have hsigned : Binary64.signed negative m = 0 ↔ m = 0 := by
        cases negative <;> simp [Binary64.signed]
      rw [isZero_iff_of_value? hvalue, mul_eq_zero, or_iff_left hpower, Int.cast_eq_zero, hsigned]
      constructor
      · rintro rfl
        have hq : q = -1074 := by
          rcases canonical.2.2.2 with hfull | hleast
          · exact absurd hfull (by decide)
          · exact hleast
        subst hq
        exact .inr ⟨negative, rfl⟩
      · rintro (h | ⟨other, h⟩)
        · cases h
        · simp only [Binary64.zero, float.injEq, Binary64.finite.injEq] at h
          exact h.2.1

/-- The sum of zeros is zero. -/
theorem isZero_add {x y : Number} (hx : x.isZero = true) (hy : y.isZero = true) :
    (x.add y).isZero = true := by
  rcases isZero_iff.mp hx with rfl | ⟨a, rfl⟩
  · rcases isZero_iff.mp hy with rfl | ⟨b, rfl⟩
    · rfl
    · cases b <;> decide +kernel
  · rcases isZero_iff.mp hy with rfl | ⟨b, rfl⟩
    · cases a <;> decide +kernel
    · cases a <;> cases b <;> decide +kernel

theorem isZero_sum {xs : List Number} (h : ∀ x ∈ xs, x.isZero = true) :
    (Scalar.sum xs).isZero = true := by
  have hfold : ∀ start : Number, start.isZero = true →
      (xs.foldl (· + ·) start).isZero = true := by
    induction xs with
    | nil => exact fun start hstart => hstart
    | cons x xs ih =>
      intro start hstart
      exact ih (fun y hy => h y (List.mem_cons_of_mem _ hy)) _
        (isZero_add hstart (h x (List.mem_cons_self ..)))
  exact hfold (int 0) rfl

end Zero

end TagAudit.Number
