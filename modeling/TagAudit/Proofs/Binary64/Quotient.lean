import TagAudit.Proofs.Number.Order

/-!
# Rounded quotients

The number nearest to a quotient is at most half a unit away from it, where the unit is that of the
last bit of its significand. So a quotient of at most one is rounded to a number of at most one that
is very close to it, and one of at least one is not rounded to less than one.
-/

namespace TagAudit

namespace Binary64

open Number

/-- A quotient is compared with a power of two by whole numbers. -/
theorem ratioBelowPower_iff {num den : ℕ} (hden : 0 < den) (e : ℤ) :
    ratioBelowPower num den e = true ↔ (num / den : ℚ) < 2 ^ e := by
  have hd : (0 : ℚ) < den := Nat.cast_pos.mpr hden
  have hp : (0 : ℚ) < 2 ^ (-e).toNat := by positivity
  rw [ratioBelowPower, decide_eq_true_eq, zpow_eq_div (by norm_num) e, div_lt_div_iff₀ hd hp,
    ← Nat.cast_lt (α := ℚ), mul_comm (2 ^ e.toNat : ℚ)]
  push_cast [cast_twoPow]
  rfl

/-- The exponent of the first bit of a quotient. -/
def leading (num den : ℕ) : ℤ :=
  let guess : ℤ := num.log2 - den.log2
  if ratioBelowPower num den guess then guess - 1 else guess

/-- The exponent of the last bit of the significand that a quotient is rounded to. -/
def lastBit (num den : ℕ) : ℤ := max (leading num den - 52) (-1074)

/-- The significand that a quotient is rounded to. -/
def rounded (num den : ℕ) : ℕ :=
  divNearest (num * twoPow (-lastBit num den).toNat) (den * twoPow (lastBit num den).toNat)

/-- A number lies between the powers of two around its logarithm. -/
theorem zpow_log2_le {n : ℕ} (h : 0 < n) : (2 : ℚ) ^ (n.log2 : ℤ) ≤ n := by
  rw [zpow_natCast]
  exact_mod_cast Nat.log2_self_le h.ne'

theorem lt_zpow_log2_add_one (n : ℕ) : (n : ℚ) < 2 ^ ((n.log2 : ℤ) + 1) := by
  have hlt : n < 2 ^ (n.log2 + 1) := Nat.lt_log2_self
  exact_mod_cast hlt

theorem cast_leastFull : (leastFull : ℚ) = 2 ^ (52 : ℤ) := by norm_num [leastFull]

section Rounding

variable {num den : ℕ} (hden : 0 < den)

include hden

/-- A quotient lies in the binade of its first bit. -/
theorem zpow_leading_le (hnum : 0 < num) : (2 : ℚ) ^ leading num den ≤ num / den := by
  have hd : (0 : ℚ) < den := Nat.cast_pos.mpr hden
  unfold leading
  dsimp only
  split
  · rw [le_div_iff₀ hd]
    calc (2 : ℚ) ^ ((num.log2 : ℤ) - den.log2 - 1) * den
        ≤ 2 ^ ((num.log2 : ℤ) - den.log2 - 1) * 2 ^ ((den.log2 : ℤ) + 1) := by
          gcongr
          exact (lt_zpow_log2_add_one den).le
      _ = 2 ^ (num.log2 : ℤ) := by
          rw [← zpow_add₀ two_ne_zero]
          congr 1
          omega
      _ ≤ num := zpow_log2_le hnum
  · rename_i hbelow
    exact not_lt.mp (hbelow ∘ (ratioBelowPower_iff hden _).mpr)

theorem lt_zpow_leading_add_one : (num / den : ℚ) < 2 ^ (leading num den + 1) := by
  have hd : (0 : ℚ) < den := Nat.cast_pos.mpr hden
  unfold leading
  dsimp only
  split
  · rename_i hbelow
    simpa using (ratioBelowPower_iff hden _).mp hbelow
  · rw [div_lt_iff₀ hd]
    calc (num : ℚ)
        < 2 ^ ((num.log2 : ℤ) + 1) := lt_zpow_log2_add_one num
      _ = 2 ^ ((num.log2 : ℤ) - den.log2 + 1) * 2 ^ (den.log2 : ℤ) := by
          rw [← zpow_add₀ two_ne_zero]
          congr 1
          omega
      _ ≤ 2 ^ ((num.log2 : ℤ) - den.log2 + 1) * den := by
          gcongr
          exact zpow_log2_le hden

/-- A quotient of at most one has its first bit no further left than one has. -/
theorem leading_nonpos (hnum : 0 < num) (hle : num ≤ den) : leading num den ≤ 0 := by
  have hone : (num / den : ℚ) ≤ 1 := div_le_one_of_le₀ (by exact_mod_cast hle) (Nat.cast_nonneg _)
  have hpow : (2 : ℚ) ^ leading num den ≤ 2 ^ (0 : ℤ) := by
    rw [zpow_zero]
    exact (zpow_leading_le hden hnum).trans hone
  exact (zpow_le_zpow_iff_right₀ one_lt_two).mp hpow

/-- A quotient of at least one has its first bit no further right than one has. -/
theorem leading_nonneg (hle : den ≤ num) : 0 ≤ leading num den := by
  have hone : (1 : ℚ) ≤ num / den := by
    rw [one_le_div (Nat.cast_pos.mpr hden)]
    exact_mod_cast hle
  have hpow : (2 : ℚ) ^ (0 : ℤ) < 2 ^ (leading num den + 1) := by
    rw [zpow_zero]
    exact hone.trans_lt (lt_zpow_leading_add_one hden)
  have hlt : 0 < leading num den + 1 := (zpow_lt_zpow_iff_right₀ one_lt_two).mp hpow
  omega

/-- Rounding moves the significand by one half at most. -/
theorem abs_rounded_sub_le : |rounded num den - (num / den / 2 ^ lastBit num den : ℚ)| ≤ 1 / 2 := by
  let n := num * twoPow (-lastBit num den).toNat
  let d := den * twoPow (lastBit num den).toNat
  have hd : 0 < d := Nat.mul_pos hden (twoPow_pos _)
  have hdq : (0 : ℚ) < d := Nat.cast_pos.mpr hd
  have hscaled : (num / den / 2 ^ lastBit num den : ℚ) = n / d := by
    rw [zpow_eq_div two_ne_zero (lastBit num den)]
    push_cast [n, d, cast_twoPow]
    field_simp
  have habove : (2 * (rounded num den * d) : ℚ) ≤ 2 * n + d := by
    exact_mod_cast two_mul_divNearest_mul_le n hd
  have hbelow : (2 * n : ℚ) ≤ 2 * (rounded num den * d) + d := by
    exact_mod_cast two_mul_le_two_mul_divNearest_mul n hd
  have hdiff : (rounded num den - n / d : ℚ) = (rounded num den * d - n) / d := by
    field_simp
  rw [hscaled, hdiff, abs_div, abs_of_pos hdq, div_le_iff₀ hdq, abs_le]
  constructor <;> linarith

/-- Rounding moves a quotient by half a unit at most. -/
theorem abs_rounded_mul_sub_le :
    |rounded num den * 2 ^ lastBit num den - (num / den : ℚ)| ≤ 2 ^ lastBit num den / 2 := by
  have hu : (0 : ℚ) < 2 ^ lastBit num den := by positivity
  have hdiff : rounded num den * 2 ^ lastBit num den - (num / den : ℚ) =
      (rounded num den - num / den / 2 ^ lastBit num den) * 2 ^ lastBit num den := by
    field_simp
  rw [hdiff, abs_mul, abs_of_pos hu]
  calc |rounded num den - (num / den / 2 ^ lastBit num den : ℚ)| * 2 ^ lastBit num den
      ≤ 1 / 2 * 2 ^ lastBit num den := by
        gcongr
        exact abs_rounded_sub_le hden
    _ = 2 ^ lastBit num den / 2 := by ring

/-- The significand has at most as many bits as there is room for, or is the next power of two. -/
theorem rounded_le : rounded num den ≤ 2 * leastFull := by
  have hu : (0 : ℚ) < 2 ^ lastBit num den := by positivity
  have hscaled : (num / den / 2 ^ lastBit num den : ℚ) < 2 * 2 ^ (52 : ℤ) := by
    rw [div_lt_iff₀ hu, ← zpow_one_add₀ two_ne_zero, ← zpow_add₀ two_ne_zero]
    refine (lt_zpow_leading_add_one hden).trans_le (zpow_le_zpow_right₀ one_le_two ?_)
    unfold lastBit
    omega
  have hclose := abs_le.mp (@abs_rounded_sub_le num den hden)
  have hlt : (rounded num den : ℚ) < 2 * leastFull + 1 := by
    rw [cast_leastFull]
    linarith
  exact Nat.lt_succ_iff.mp (by exact_mod_cast hlt)

/-- The significand is full unless it reaches the last bit of all. -/
theorem leastFull_le_rounded (hnum : 0 < num) (h : -1022 ≤ leading num den) :
    leastFull ≤ rounded num den := by
  have hu : (0 : ℚ) < 2 ^ lastBit num den := by positivity
  have hscaled : (2 : ℚ) ^ (52 : ℤ) ≤ num / den / 2 ^ lastBit num den := by
    rw [le_div_iff₀ hu, ← zpow_add₀ two_ne_zero]
    refine le_trans (zpow_le_zpow_right₀ one_le_two ?_) (zpow_leading_le hden hnum)
    unfold lastBit
    omega
  have hclose := abs_le.mp (@abs_rounded_sub_le num den hden)
  have hlt : (leastFull : ℚ) < rounded num den + 1 := by
    rw [cast_leastFull]
    linarith
  exact Nat.lt_succ_iff.mp (by exact_mod_cast hlt)

/-- A quotient that is not too large is rounded to a canonical significand, or to the next power of
two. -/
theorem canonical_rounded (hnum : 0 < num) (hhigh : leading num den ≤ 1022)
    (hne : rounded num den ≠ 2 * leastFull) : Canonical (rounded num den) (lastBit num den) := by
  refine ⟨lt_of_le_of_ne (rounded_le hden) hne, le_max_right .., ?_, ?_⟩
  · unfold lastBit
    omega
  · by_cases hlow : -1022 ≤ leading num den
    · exact Or.inl (leastFull_le_rounded hden hnum hlow)
    · right
      unfold lastBit
      omega

end Rounding

@[simp] theorem value?_finite {m : ℕ} {q : ℤ} (hc : Canonical m q) :
    (float (finite false m q hc)).value? = some (m * 2 ^ q : ℚ) := by
  simp [value?, place, Place.value?, signed]

@[simp] theorem value?_zero (negative : Bool) : (float (zero negative)).value? = some 0 := by
  cases negative <;> simp [value?, place, Place.value?, zero, signed]

theorem value?_ofSignificand {m : ℕ} {q : ℤ} (hc : Canonical m q) :
    (float (ofSignificand false m q)).value? = some (m * 2 ^ q : ℚ) := by
  rw [ofSignificand, dif_pos hc, value?_finite]

/-- What is left of a significand is its number, unless the exponent is too large. -/
theorem ofSignificand_eq_infinite_or (m : ℕ) (q : ℤ) : ofSignificand false m q = infinite false ∨
    (float (ofSignificand false m q)).value? = some (m * 2 ^ q : ℚ) := by
  by_cases hc : Canonical m q
  · exact Or.inr (value?_ofSignificand hc)
  · exact Or.inl (dif_neg hc)

/-- The next power of two is the least full significand with the next exponent. -/
theorem leastFull_mul_zpow_add_one (q : ℤ) :
    (leastFull * 2 ^ (q + 1) : ℚ) = (2 * leastFull : ℕ) * 2 ^ q := by
  rw [zpow_add_one₀ two_ne_zero]
  push_cast
  ring

section Value

variable {num den : ℕ}

theorem ofRatio_eq (hnum : 0 < num) (negative : Bool) : ofRatio negative num den =
    if rounded num den = 2 * leastFull then
      ofSignificand negative leastFull (lastBit num den + 1)
    else ofSignificand negative (rounded num den) (lastBit num den) :=
  if_neg hnum.ne'

/-- The rounded quotient is its significand in units of its last bit, unless it is too large. -/
theorem ofRatio_eq_infinite_or (hnum : 0 < num) : ofRatio false num den = infinite false ∨
    (float (ofRatio false num den)).value? =
      some (rounded num den * 2 ^ lastBit num den : ℚ) := by
  rw [ofRatio_eq hnum]
  split
  · rename_i hround
    rw [hround, ← leastFull_mul_zpow_add_one]
    exact ofSignificand_eq_infinite_or ..
  · exact ofSignificand_eq_infinite_or ..

variable (hden : 0 < den)

include hden

/-- A quotient that is not too large is rounded to a finite number. -/
theorem exists_ofRatio_eq_finite (hnum : 0 < num) (hhigh : leading num den ≤ 1022)
    (negative : Bool) : ∃ m q hc, ofRatio negative num den = finite negative m q hc ∧
      (m * 2 ^ q : ℚ) = rounded num den * 2 ^ lastBit num den := by
  have hlast : -1074 ≤ lastBit num den ∧ lastBit num den ≤ 970 := by
    unfold lastBit
    omega
  rw [ofRatio_eq hnum]
  split
  · rename_i hround
    have hc : Canonical leastFull (lastBit num den + 1) :=
      ⟨by decide, by omega, by omega, Or.inl le_rfl⟩
    refine ⟨_, _, hc, dif_pos hc, ?_⟩
    rw [hround, leastFull_mul_zpow_add_one]
  · rename_i hround
    have hc := canonical_rounded hden hnum hhigh hround
    exact ⟨_, _, hc, dif_pos hc, rfl⟩

theorem value?_ofRatio (hnum : 0 < num) (hhigh : leading num den ≤ 1022) :
    (float (ofRatio false num den)).value? =
      some (rounded num den * 2 ^ lastBit num den : ℚ) := by
  obtain ⟨m, q, hc, hfinite, hvalue⟩ := exists_ofRatio_eq_finite hden hnum hhigh false
  rw [hfinite, value?_finite, hvalue]

/-- A quotient of at most one is rounded to a number of at most one, by at most half of the unit
that one has. -/
theorem exists_value?_ofRatio (hle : num ≤ den) :
    ∃ v, (float (ofRatio false num den)).value? = some v ∧ 0 ≤ v ∧ v ≤ 1 ∧
      |v - num / den| ≤ 2 ^ (-53 : ℤ) := by
  rcases Nat.eq_zero_or_pos num with rfl | hnum
  · exact ⟨0, value?_zero false, le_rfl, zero_le_one, by simp⟩
  have hu : (0 : ℚ) < 2 ^ lastBit num den := by positivity
  have hlead : leading num den ≤ 0 := leading_nonpos hden hnum hle
  have hlast : lastBit num den ≤ -52 := by
    unfold lastBit
    omega
  refine ⟨_, value?_ofRatio hden hnum (by omega), by positivity, ?_, ?_⟩
  · -- one is a whole number of units, and rounding does not pass it
    have hunits : (2 ^ (-lastBit num den).toNat : ℕ) * (2 : ℚ) ^ lastBit num den = 1 := by
      rw [Nat.cast_pow, Nat.cast_ofNat, ← zpow_natCast, ← zpow_add₀ two_ne_zero]
      simp [Int.toNat_of_nonneg (show 0 ≤ -lastBit num den by omega)]
    have hscaled : (num / den / 2 ^ lastBit num den : ℚ) ≤ (2 ^ (-lastBit num den).toNat : ℕ) := by
      rw [div_le_iff₀ hu, hunits]
      exact div_le_one_of_le₀ (by exact_mod_cast hle) (Nat.cast_nonneg _)
    have hclose := abs_le.mp (@abs_rounded_sub_le num den hden)
    have hlt : (rounded num den : ℚ) < (2 ^ (-lastBit num den).toNat : ℕ) + 1 := by linarith
    have hle : rounded num den ≤ 2 ^ (-lastBit num den).toNat :=
      Nat.lt_succ_iff.mp (by exact_mod_cast hlt)
    calc (rounded num den : ℚ) * 2 ^ lastBit num den
        ≤ (2 ^ (-lastBit num den).toNat : ℕ) * 2 ^ lastBit num den := by gcongr
      _ = 1 := hunits
  · calc |rounded num den * 2 ^ lastBit num den - (num / den : ℚ)|
        ≤ 2 ^ lastBit num den / 2 := abs_rounded_mul_sub_le hden
      _ ≤ 2 ^ (-52 : ℤ) / 2 := by
          gcongr
          norm_num
      _ = 2 ^ (-53 : ℤ) := by norm_num

/-- A quotient of at least one is not rounded to less than one. -/
theorem ofRatio_eq_infinite_or_one_le (hle : den ≤ num) : ofRatio false num den = infinite false ∨
    ∃ v, (float (ofRatio false num den)).value? = some v ∧ 1 ≤ v := by
  have hnum : 0 < num := hden.trans_le hle
  refine (ofRatio_eq_infinite_or hnum).imp_right fun hv => ⟨_, hv, ?_⟩
  have hlead : 0 ≤ leading num den := leading_nonneg hden hle
  have hlast : -52 ≤ lastBit num den := by
    unfold lastBit
    omega
  have hfull : (leastFull : ℚ) ≤ rounded num den := by
    exact_mod_cast leastFull_le_rounded hden hnum (by omega)
  calc (1 : ℚ) = leastFull * 2 ^ (-52 : ℤ) := by
        rw [cast_leastFull, ← zpow_add₀ two_ne_zero]
        norm_num
    _ ≤ rounded num den * 2 ^ lastBit num den := by
        gcongr
        norm_num

end Value

end Binary64

end TagAudit
