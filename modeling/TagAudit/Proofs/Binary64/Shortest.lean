import TagAudit.Proofs.Binary64.DecimalText

/-!
# The shortest decimal rounds to its number

The numbers that round to a double precision number form an interval around it. The shortest
decimal lies in that interval, and the intervals of different numbers have nothing in common, so
the decimal text of a number belongs to no other.
-/

namespace TagAudit

theorem cast_twoPow (n : ℕ) : (twoPow n : ℚ) = 2 ^ n := by
  rw [twoPow, Nat.pow_eq, Nat.cast_pow, Nat.cast_ofNat]

theorem cast_tenPow (n : ℕ) : (tenPow n : ℚ) = 10 ^ n := by
  rw [tenPow, Nat.pow_eq, Nat.cast_pow, Nat.cast_ofNat]

/-- A power with any exponent as a quotient of two powers with natural exponents. -/
theorem zpow_eq_div {b : ℚ} (hb : b ≠ 0) (e : ℤ) :
    b ^ e = b ^ e.toNat / b ^ (-e).toNat := by
  rw [eq_div_iff (pow_ne_zero _ hb), ← zpow_natCast, ← zpow_natCast, ← zpow_add₀ hb]
  congr 1
  omega

namespace Binary64

namespace Ratio

/-- The quotient as a number. -/
def value (r : Ratio) : ℚ := r.num / r.den

variable {r : Ratio} (hden : 0 < r.den)

include hden

theorem le_iff (c : ℕ) (g : ℤ) : r.le c g = true ↔ r.value ≤ c * 10 ^ g := by
  have hd : (0 : ℚ) < r.den := Nat.cast_pos.mpr hden
  have ht : (0 : ℚ) < 10 ^ (-g).toNat := by positivity
  rw [le, decide_eq_true_eq, value, zpow_eq_div (by norm_num) g, ← mul_div_assoc,
    div_le_div_iff₀ hd ht, ← Nat.cast_le (α := ℚ)]
  push_cast [cast_tenPow]
  rfl

theorem ge_iff (c : ℕ) (g : ℤ) : r.ge c g = true ↔ c * 10 ^ g ≤ r.value := by
  have hd : (0 : ℚ) < r.den := Nat.cast_pos.mpr hden
  have ht : (0 : ℚ) < 10 ^ (-g).toNat := by positivity
  rw [ge, decide_eq_true_eq, value, zpow_eq_div (by norm_num) g, ← mul_div_assoc,
    div_le_div_iff₀ ht hd, ← Nat.cast_le (α := ℚ)]
  push_cast [cast_tenPow]
  rfl

/-- The greatest grid point at or below a quotient. -/
theorem floor_mul_le (g : ℤ) : r.floor g * 10 ^ g ≤ r.value := by
  have hpos : 0 < r.den * tenPow g.toNat := Nat.mul_pos hden (tenPow_pos _)
  rw [← ge_iff hden, ge, decide_eq_true_eq, floor, Nat.mul_assoc, Nat.mul_comm (tenPow g.toNat)]
  exact Nat.div_mul_le_self ..

/-- The next grid point lies above. -/
theorem lt_floor_add_one_mul (g : ℤ) : r.value < (r.floor g + 1) * 10 ^ g := by
  have hpos : 0 < r.den * tenPow g.toNat := Nat.mul_pos hden (tenPow_pos _)
  have hlt : ¬ r.ge (r.floor g + 1) g = true := by
    rw [ge, decide_eq_true_eq, floor, Nat.mul_assoc, Nat.mul_comm (tenPow g.toNat), not_le,
      Nat.mul_comm (_ + 1)]
    exact Nat.lt_mul_div_succ _ hpos
  rw [ge_iff hden, not_le] at hlt
  exact_mod_cast hlt

/-- The power of the leading digit is not too large, if it is not so by two for the guess that it is
made of. -/
theorem leadingPower_le {power : ℤ} (h : 10 ^ (power * 30103 / 100000 - 1) ≤ r.value) :
    10 ^ r.leadingPower power ≤ r.value := by
  rw [leadingPower]
  split
  · rename_i hge
    simpa using (ge_iff hden 1 _).mp hge
  · split
    · rename_i hge
      simpa using (ge_iff hden 1 _).mp hge
    · exact h

end Ratio

/-- The guess for the power of ten below a great power of two is not too large by two. -/
private theorem tenPow_guess_le : ∀ n < 1024, tenPow (n * 30103 / 100000 - 1) ≤ twoPow n := by
  decide +kernel

/-- Nor is it below a small power of two. -/
private theorem twoPow_le_tenPow_guess :
    ∀ n < 1075, twoPow n ≤ tenPow ((n * 30103 + 99999) / 100000 + 1) := by
  decide +kernel

/-- The guess for the power of ten below a power of two is at most one too large. -/
theorem zpow_guess_le {power : ℤ} (hlow : -1074 ≤ power) (hhigh : power ≤ 1023) :
    (10 : ℚ) ^ (power * 30103 / 100000 - 1) ≤ 2 ^ power := by
  rcases Int.le_total 0 power with h | h
  · obtain ⟨n, rfl⟩ := Int.eq_ofNat_of_zero_le h
    have hn := tenPow_guess_le n (by omega)
    rw [← Nat.cast_le (α := ℚ), cast_tenPow, cast_twoPow] at hn
    calc (10 : ℚ) ^ ((n : ℤ) * 30103 / 100000 - 1)
        ≤ 10 ^ ((n * 30103 / 100000 - 1 : ℕ) : ℤ) :=
          zpow_le_zpow_right₀ (by norm_num) (by omega)
      _ = 10 ^ (n * 30103 / 100000 - 1) := zpow_natCast ..
      _ ≤ 2 ^ n := hn
      _ = 2 ^ (n : ℤ) := (zpow_natCast ..).symm
  · obtain ⟨n, hn⟩ := Int.eq_ofNat_of_zero_le (Int.neg_nonneg_of_nonpos h)
    obtain rfl : power = -(n : ℤ) := by omega
    have hpow := twoPow_le_tenPow_guess n (by omega)
    rw [← Nat.cast_le (α := ℚ), cast_tenPow, cast_twoPow] at hpow
    have hguess : -(n : ℤ) * 30103 / 100000 - 1 =
        -(((n * 30103 + 99999) / 100000 + 1 : ℕ) : ℤ) := by omega
    rw [hguess, zpow_neg, zpow_neg, zpow_natCast, zpow_natCast]
    exact inv_anti₀ (by positivity) hpow

section Intervals

variable {m m' : ℕ} {q q' : ℤ} {x : ℚ}

/-- The lower end of the numbers that round to `m · 2 ^ q`: the midpoint to the neighbour below,
which is twice as near where the exponent changes. -/
def lowerEnd (m : ℕ) (q : ℤ) : ℚ :=
  (4 * m - if m = leastFull ∧ -1074 < q then 1 else 2) * 2 ^ (q - 2)

/-- The upper end of the numbers that round to `m · 2 ^ q`. -/
def upperEnd (m : ℕ) (q : ℤ) : ℚ := (4 * m + 2) * 2 ^ (q - 2)

/-- A number rounds to `m · 2 ^ q`: the ends of the interval do if the significand is even. -/
def RoundsTo (m : ℕ) (q : ℤ) (x : ℚ) : Prop :=
  if m % 2 = 0 then lowerEnd m q ≤ x ∧ x ≤ upperEnd m q else lowerEnd m q < x ∧ x < upperEnd m q

theorem RoundsTo.le (h : RoundsTo m q x) : lowerEnd m q ≤ x ∧ x ≤ upperEnd m q := by
  unfold RoundsTo at h
  split at h
  · exact h
  · exact ⟨h.1.le, h.2.le⟩

/-- A number inside the interval rounds to its middle. -/
theorem roundsTo_of_lt (hlow : lowerEnd m q < x) (hhigh : x < upperEnd m q) : RoundsTo m q x := by
  unfold RoundsTo
  split
  · exact ⟨hlow.le, hhigh.le⟩
  · exact ⟨hlow, hhigh⟩

/-- At most half a unit lies between a number and the lower end of its interval. -/
theorem mul_zpow_le_lowerEnd : (4 * m - 2 : ℚ) * 2 ^ (q - 2) ≤ lowerEnd m q := by
  unfold lowerEnd
  gcongr
  split <;> norm_num

/-- One number lies before another: it has a smaller exponent, or the same and a smaller
significand. -/
def Before (m : ℕ) (q : ℤ) (m' : ℕ) (q' : ℤ) : Prop := q < q' ∨ q = q' ∧ m < m'

/-- The interval of a canonical number ends before the interval of a later one begins, or where it
begins; then one of the two significands is odd. -/
theorem upperEnd_lt_or (hc : Canonical m q) (hc' : Canonical m' q') (h : Before m q m' q') :
    upperEnd m q < lowerEnd m' q' ∨
      upperEnd m q ≤ lowerEnd m' q' ∧ (m % 2 = 1 ∨ m' % 2 = 1) := by
  have hu : (0 : ℚ) < 2 ^ (q - 2) := by positivity
  rcases h with hq | ⟨rfl, hm⟩
  · -- the later number has a full significand, each unit of which is at least two of the other's
    obtain ⟨hsmall, hleast, -, -⟩ := hc
    obtain ⟨-, -, -, hfull | hleast'⟩ := hc'
    · have hunit : 2 * (2 : ℚ) ^ (q - 2) ≤ 2 ^ (q' - 2) := by
        rw [← zpow_one_add₀ (by norm_num)]
        exact zpow_le_zpow_right₀ (by norm_num) (by omega)
      have hm : (m : ℚ) + 1 ≤ 2 * leastFull := by exact_mod_cast hsmall
      by_cases he : m' = leastFull
      · have hlower : lowerEnd m' q' = (4 * leastFull - 1) * 2 ^ (q' - 2) := by
          rw [lowerEnd, if_pos ⟨he, by omega⟩, he]
        have hfactor : (0 : ℚ) ≤ 4 * leastFull - 1 := by norm_num [leastFull]
        have hle : upperEnd m q ≤ lowerEnd m' q' := by
          rw [hlower, upperEnd]
          calc (4 * m + 2 : ℚ) * 2 ^ (q - 2)
              ≤ (2 * (4 * leastFull - 1)) * 2 ^ (q - 2) := by gcongr; linarith
            _ = (4 * leastFull - 1) * (2 * 2 ^ (q - 2)) := by ring
            _ ≤ (4 * leastFull - 1) * 2 ^ (q' - 2) := by gcongr
        by_cases hodd : m % 2 = 1
        · exact Or.inr ⟨hle, Or.inl hodd⟩
        · refine Or.inl ?_
          have hm2 : (m : ℚ) + 2 ≤ 2 * leastFull := by
            have : m + 2 ≤ 2 * leastFull := by omega
            exact_mod_cast this
          rw [hlower, upperEnd]
          calc (4 * m + 2 : ℚ) * 2 ^ (q - 2)
              < (2 * (4 * leastFull - 1)) * 2 ^ (q - 2) := by gcongr; linarith
            _ = (4 * leastFull - 1) * (2 * 2 ^ (q - 2)) := by ring
            _ ≤ (4 * leastFull - 1) * 2 ^ (q' - 2) := by gcongr
      · refine Or.inl ?_
        have hm' : (leastFull : ℚ) + 1 ≤ m' := by
          have : leastFull + 1 ≤ m' := by omega
          exact_mod_cast this
        calc upperEnd m q = (4 * m + 2) * 2 ^ (q - 2) := rfl
          _ < (2 * (4 * m' - 2)) * 2 ^ (q - 2) := by gcongr; linarith
          _ = (4 * m' - 2) * (2 * 2 ^ (q - 2)) := by ring
          _ ≤ (4 * m' - 2) * 2 ^ (q' - 2) := by
            gcongr
            have : (1 : ℚ) ≤ leastFull := by norm_num [leastFull]
            linarith
          _ ≤ lowerEnd m' q' := mul_zpow_le_lowerEnd
    · omega
  · -- significands of one exponent: neighbours meet, and one of them is odd
    by_cases he : m' = m + 1
    · refine Or.inr ⟨?_, by omega⟩
      refine le_trans ?_ mul_zpow_le_lowerEnd
      rw [upperEnd, he]
      gcongr
      push_cast
      linarith
    · refine Or.inl ?_
      have hm' : (m : ℚ) + 2 ≤ m' := by
        have : m + 2 ≤ m' := by omega
        exact_mod_cast this
      calc upperEnd m q = (4 * m + 2) * 2 ^ (q - 2) := rfl
        _ < (4 * m' - 2) * 2 ^ (q - 2) := by gcongr; linarith
        _ ≤ lowerEnd m' q := mul_zpow_le_lowerEnd

/-- Nothing rounds to two numbers one of which lies before the other. -/
theorem not_roundsTo_of_before (hc : Canonical m q) (hc' : Canonical m' q')
    (hb : Before m q m' q') (h : RoundsTo m q x) : ¬ RoundsTo m' q' x := by
  intro h'
  rcases upperEnd_lt_or hc hc' hb with hlt | ⟨hle, hodd | hodd⟩
  · exact absurd (h.le.2.trans_lt (hlt.trans_le h'.le.1)) (lt_irrefl x)
  · rw [RoundsTo, if_neg (by omega)] at h
    exact absurd (h.2.trans_le (hle.trans h'.le.1)) (lt_irrefl x)
  · rw [RoundsTo, if_neg (by omega)] at h'
    exact absurd ((h.le.2.trans hle).trans_lt h'.1) (lt_irrefl x)

/-- A number rounds to one canonical number only. -/
theorem RoundsTo.unique (hc : Canonical m q) (hc' : Canonical m' q') (h : RoundsTo m q x)
    (h' : RoundsTo m' q' x) : m = m' ∧ q = q' := by
  rcases lt_trichotomy q q' with hq | rfl | hq
  · exact absurd h' (not_roundsTo_of_before hc hc' (Or.inl hq) h)
  · rcases lt_trichotomy m m' with hm | rfl | hm
    · exact absurd h' (not_roundsTo_of_before hc hc' (Or.inr ⟨rfl, hm⟩) h)
    · exact ⟨rfl, rfl⟩
    · exact absurd h (not_roundsTo_of_before hc' hc (Or.inr ⟨rfl, hm⟩) h')
  · exact absurd h (not_roundsTo_of_before hc' hc (Or.inl hq) h')

end Intervals

/-- A number of quarter units as a quotient. -/
private theorem value_scaled (n : ℕ) (unit : ℤ) :
    (Ratio.mk (n * twoPow unit.toNat) (twoPow (-unit).toNat)).value = n * 2 ^ unit := by
  rw [Ratio.value, zpow_eq_div (by norm_num) unit]
  push_cast [cast_twoPow]
  exact mul_div_assoc ..

/-- The size of a canonical number bounds the power of ten that its digits are counted from. -/
theorem tenPow_le_of_canonical {m : ℕ} {q : ℤ} (hm : m ≠ 0) (hc : Canonical m q) :
    (10 : ℚ) ^ ((m.log2 + q) * 30103 / 100000 - 1) ≤ m * 2 ^ q := by
  obtain ⟨hsmall, hleast, hgreatest, -⟩ := hc
  have hlog : m.log2 < 53 := (Nat.log2_lt hm).mpr (lt_of_lt_of_eq hsmall (by decide))
  have hpow : (2 : ℚ) ^ m.log2 ≤ m := by exact_mod_cast Nat.log2_self_le hm
  calc (10 : ℚ) ^ ((m.log2 + q) * 30103 / 100000 - 1)
      ≤ 2 ^ (m.log2 + q) := zpow_guess_le (by omega) (by omega)
    _ = 2 ^ m.log2 * 2 ^ q := by rw [zpow_add₀ (by norm_num), zpow_natCast]
    _ ≤ m * 2 ^ q := by gcongr

/-- Seventeen digits are enough: cut off after them, a number still rounds to itself. -/
theorem floor_roundsTo {m : ℕ} {q top : ℤ} {r : Ratio} (hden : 0 < r.den) (hc : Canonical m q)
    (hr : r.value = m * 2 ^ q) (htop : 10 ^ top ≤ r.value) :
    RoundsTo m q (r.floor (top - 17) * 10 ^ (top - 17)) := by
  have hu : (0 : ℚ) < 2 ^ (q - 2) := by positivity
  have hunit : (2 : ℚ) ^ q = 4 * 2 ^ (q - 2) := by
    rw [show q = 2 + (q - 2) by omega, zpow_add₀ (by norm_num)]
    norm_num
  have hm : (m : ℚ) + 1 ≤ 2 * leastFull := by exact_mod_cast hc.1
  have hstep : (10 : ℚ) ^ (top - 17) < 2 ^ (q - 2) := by
    rw [hr, hunit] at htop
    have hlarge : (4 : ℚ) * m < 10 ^ 17 := by
      have : (leastFull : ℚ) = 4503599627370496 := by norm_num [leastFull]
      linarith
    rw [zpow_sub₀ (by norm_num), div_lt_iff₀ (by positivity)]
    calc (10 : ℚ) ^ top ≤ 4 * m * 2 ^ (q - 2) := by linarith
      _ < 10 ^ 17 * 2 ^ (q - 2) := by gcongr
      _ = 2 ^ (q - 2) * 10 ^ (17 : ℤ) := by norm_num [mul_comm]
  have hbelow := r.floor_mul_le hden (top - 17)
  have habove := r.lt_floor_add_one_mul hden (top - 17)
  rw [hr, hunit] at hbelow habove
  refine roundsTo_of_lt ?_ ?_
  · have hlower : lowerEnd m q ≤ (4 * m - 1) * 2 ^ (q - 2) := by
      unfold lowerEnd
      gcongr
      split <;> norm_num
    linarith
  · rw [upperEnd]
    linarith

/-- The shortest decimal of a number rounds to it. -/
theorem shortest_roundsTo {m : ℕ} {q : ℤ} (hm : m ≠ 0) (hc : Canonical m q) :
    RoundsTo m q (shortest m q).value := by
  unfold shortest
  extract_lets unit scaled value low high reads top doubled candidate
  have hden : ∀ n, 0 < (scaled n).den := fun n => twoPow_pos _
  have hscaled : ∀ n, (scaled n).value = n * 2 ^ (q - 2) := fun n => value_scaled n unit
  have hvalue : value.value = m * 2 ^ q := by
    rw [hscaled, show q = 2 + (q - 2) by omega, zpow_add₀ (by norm_num), add_sub_cancel_left]
    push_cast
    ring
  have hlow : low.value = lowerEnd m q := by
    rw [hscaled, lowerEnd]
    split
    · rw [Nat.cast_sub (by omega)]
      push_cast
      rfl
    · rw [Nat.cast_sub (by omega)]
      push_cast
      rfl
  have hhigh : high.value = upperEnd m q := by
    rw [hscaled, upperEnd]
    push_cast
    rfl
  have hreads : ∀ c g, reads c g = true → RoundsTo m q (c * 10 ^ g) := by
    intro c g h
    unfold RoundsTo
    rw [← hlow, ← hhigh]
    dsimp only [reads] at h
    split at h
    · rename_i heven
      rw [Bool.and_eq_true, Ratio.le_iff (hden _), Ratio.ge_iff (hden _)] at h
      rw [if_pos heven]
      exact h
    · rename_i hodd
      rw [Bool.and_eq_true, Bool.not_eq_true', Bool.not_eq_true', ← Bool.not_eq_true,
        ← Bool.not_eq_true, Ratio.ge_iff (hden _), Ratio.le_iff (hden _), not_le, not_le] at h
      rw [if_neg hodd]
      exact h
  have hcandidate : ∀ count d, candidate count = some d →
      reads d.coefficient d.exponent = true := by
    intro count d h
    dsimp only [candidate] at h
    split at h
    · rename_i hbelow
      split at h
      · rename_i habove
        split at h
        · split at h
          · exact Option.some.inj h ▸ habove
          · exact Option.some.inj h ▸ hbelow
        · exact Option.some.inj h ▸ habove
      · exact Option.some.inj h ▸ hbelow
    · split at h
      · rename_i habove
        exact Option.some.inj h ▸ habove
      · cases h
  rw [Decimal.value_normalize]
  cases hfound : (List.range 17).findSome? candidate with
  | some d =>
    obtain ⟨count, -, hc'⟩ := List.exists_of_findSome?_eq_some hfound
    exact hreads _ _ (hcandidate count d hc')
  | none =>
    have htop : 10 ^ top ≤ value.value := by
      refine value.leadingPower_le (hden _) ?_
      rw [hvalue]
      exact tenPow_le_of_canonical hm hc
    exact floor_roundsTo (hden _) hc hvalue htop

/-- The shortest decimal of a number is that of no other. -/
theorem shortest_injective {m m' : ℕ} {q q' : ℤ} (hm : m ≠ 0) (hm' : m' ≠ 0)
    (hc : Canonical m q) (hc' : Canonical m' q')
    (h : (shortest m q).value = (shortest m' q').value) : m = m' ∧ q = q' :=
  (shortest_roundsTo hm hc).unique hc hc' (h ▸ shortest_roundsTo hm' hc')

/-- The shortest decimal of a number other than zero is not zero. -/
theorem shortest_value_pos {m : ℕ} {q : ℤ} (hm : m ≠ 0) (hc : Canonical m q) :
    0 < (shortest m q).value := by
  have hm1 : (1 : ℚ) ≤ m := by exact_mod_cast Nat.one_le_iff_ne_zero.mpr hm
  refine lt_of_lt_of_le ?_ (shortest_roundsTo hm hc).le.1
  refine lt_of_lt_of_le ?_ mul_zpow_le_lowerEnd
  have hfactor : (0 : ℚ) < 4 * m - 2 := by linarith
  positivity

end Binary64

end TagAudit
