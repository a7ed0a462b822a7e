import TagAudit.Proofs.Binary64.Quotient

/-!
# Integers with a double

Integers are exact, and one meets a number in double precision through the double nearest to it. An
integer that is too large has none: here it meets the other number as an infinite one, where a
machine may as well give up. Sums of multiples of numbers whose integers are small keep away from
that.
-/

namespace TagAudit

namespace Binary64

/-- An integer that is not too large has a finite nearest double. -/
theorem ofInt_ne_infinite {n : ℤ} (h : n.natAbs < 2 ^ 1023) (negative : Bool) :
    ofInt n ≠ infinite negative := by
  rcases Nat.eq_zero_or_pos n.natAbs with hzero | hpos
  · rw [ofInt, hzero, ofRatio, if_pos rfl]
    exact nofun
  have hlead : leading n.natAbs 1 ≤ 1022 := by
    have hle : (2 : ℚ) ^ leading n.natAbs 1 ≤ n.natAbs := by
      simpa using zpow_leading_le one_pos hpos
    have hlt : (n.natAbs : ℚ) < 2 ^ (1023 : ℤ) := by exact_mod_cast h
    have hexponent := (zpow_lt_zpow_iff_right₀ one_lt_two).mp (hle.trans_lt hlt)
    omega
  obtain ⟨m, q, hc, hfinite, -⟩ := exists_ofRatio_eq_finite one_pos hpos hlead (n < 0)
  rw [ofInt, hfinite]
  exact nofun

end Binary64

namespace Number

/-- A number, if it is an integer, has a finite nearest double. -/
def HasDouble : Number → Prop
  | int n => ∀ negative, Binary64.ofInt n ≠ .infinite negative
  | float _ => True

/-- Is a number, if it is an integer, at most `bound` in magnitude? -/
def isWithin (bound : ℕ) : Number → Bool
  | int n => n.natAbs ≤ bound
  | float _ => true

/-- Numbers, each as often as it is counted. -/
def multiples (terms : List (ℕ × Number)) : List Number :=
  terms.map fun term => Scalar.ofNat term.1 * term.2

section Bounds

variable {x y : Number} {a b : ℕ}

theorem isWithin_add (hx : x.isWithin a = true) (hy : y.isWithin b = true) :
    (x + y).isWithin (a + b) = true := by
  cases x with
  | float _ => rfl
  | int m =>
    cases y with
    | float _ => rfl
    | int n =>
      have hm : m.natAbs ≤ a := of_decide_eq_true hx
      have hn : n.natAbs ≤ b := of_decide_eq_true hy
      exact decide_eq_true ((Int.natAbs_add_le m n).trans (Nat.add_le_add hm hn))

theorem isWithin_ofNat_mul (hx : x.isWithin a = true) (count : ℕ) :
    (Scalar.ofNat count * x).isWithin (count * a) = true := by
  cases x with
  | float _ => rfl
  | int n =>
    have hn : n.natAbs ≤ a := of_decide_eq_true hx
    refine decide_eq_true ?_
    rw [Int.natAbs_mul, Int.natAbs_natCast]
    exact Nat.mul_le_mul_left count hn

/-- Small numbers that are added to a small number leave it small. -/
theorem isWithin_foldl {terms : List (ℕ × Number)}
    (h : ∀ term ∈ terms, term.2.isWithin a = true) (hx : x.isWithin b = true) :
    ((multiples terms).foldl (· + ·) x).isWithin (b + (terms.map (·.1)).sum * a) = true := by
  induction terms generalizing x b with
  | nil => simpa [multiples] using hx
  | cons term rest ih =>
    obtain ⟨hterm, hrest⟩ := List.forall_mem_cons.mp h
    have hnext := ih hrest (isWithin_add hx (isWithin_ofNat_mul hterm term.1))
    rw [List.map_cons, List.sum_cons, Nat.add_mul, ← Nat.add_assoc]
    exact hnext

/-- Multiples of small numbers add up to a small number. -/
theorem isWithin_sum_multiples {terms : List (ℕ × Number)}
    (h : ∀ term ∈ terms, term.2.isWithin a = true) :
    (Scalar.sum (multiples terms)).isWithin ((terms.map (·.1)).sum * a) = true := by
  have hzero : (Scalar.ofNat 0 : Number).isWithin 0 = true := rfl
  have hsum := isWithin_foldl h hzero
  rwa [Nat.zero_add] at hsum

theorem hasDouble_of_isWithin (h : x.isWithin a = true) (ha : a < 2 ^ 1023) : x.HasDouble := by
  cases x with
  | float _ => trivial
  | int n =>
    have hn : n.natAbs ≤ a := of_decide_eq_true h
    exact Binary64.ofInt_ne_infinite (hn.trans_lt ha)

-- not every integer has a double
example : ¬ (int (10 ^ 309)).HasDouble := fun h => h false (by decide +kernel)

end Bounds

end Number

end TagAudit
