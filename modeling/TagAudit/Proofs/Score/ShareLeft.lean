import TagAudit.Proofs.Binary64.Quotient
import TagAudit.Score.Weighted

/-!
# Shares in double precision

The share that is left of some things is computed with one quotient and one difference, each rounded
once. It comes so close to the exact share that, for fewer than `2 ^ 50` things, different numbers
of flagged things leave different shares until nothing is left.
-/

namespace TagAudit

open Number

namespace Binary64

/-- The opposite number has the opposite value. -/
theorem value?_neg {x : Binary64} {a : ℚ} (hx : (float x).value? = some a) :
    (float x.neg).value? = some (-a) := by
  cases x with
  | nan => cases hx
  | infinite _ => cases hx
  | finite negative m q hc =>
    cases hx
    cases negative <;> simp [neg, value?, place, Place.value?, signed]

/-- A sum of finite numbers is exact before it is rounded. -/
theorem exists_add_eq {x y : Binary64} {a b : ℚ} (hx : (float x).value? = some a)
    (hy : (float y).value? = some b) : ∃ sum low : ℤ, ∃ negative,
      (sum * 2 ^ low : ℚ) = a + b ∧ x.add y =
        if sum = 0 then zero negative else ofScaled (sum < 0) sum.natAbs low := by
  cases x with
  | nan => cases hx
  | infinite _ => cases hx
  | finite s m p hc =>
    cases y with
    | nan => cases hy
    | infinite _ => cases hy
    | finite t n q hd =>
      cases hx
      cases hy
      let low := min p q
      have hscale : ∀ (negative : Bool) (k units : ℕ),
          signed negative (k * units) = signed negative k * units := by
        intro negative k units
        cases negative <;> simp [signed]
      refine ⟨signed s (m * twoPow (p - low).toNat) + signed t (n * twoPow (q - low).toNat), low,
        s && t, ?_, rfl⟩
      rw [hscale, hscale, Place.zpow_split (Int.min_le_left p q) (signed s m),
        Place.zpow_split (Int.min_le_right p q) (signed t n)]
      push_cast
      ring

/-- A scaled number as a quotient. -/
theorem cast_scaled (n : ℕ) (q : ℤ) :
    ((n * twoPow q.toNat : ℕ) / (twoPow (-q).toNat : ℕ) : ℚ) = n * 2 ^ q := by
  rw [zpow_eq_div two_ne_zero q]
  push_cast [cast_twoPow]
  exact mul_div_assoc ..

/-- A number of at most one is rounded to one that is close to it. -/
theorem exists_value?_ofScaled {n : ℕ} {q : ℤ} (hle : (n * 2 ^ q : ℚ) ≤ 1) :
    ∃ v, (float (ofScaled false n q)).value? = some v ∧ |v - n * 2 ^ q| ≤ 2 ^ (-53 : ℤ) := by
  have hden : 0 < twoPow (-q).toNat := twoPow_pos _
  have hratio : n * twoPow q.toNat ≤ twoPow (-q).toNat := by
    rw [← cast_scaled, div_le_one (Nat.cast_pos.mpr hden)] at hle
    exact_mod_cast hle
  obtain ⟨v, hv, -, -, hclose⟩ := exists_value?_ofRatio hden hratio
  rw [cast_scaled] at hclose
  exact ⟨v, hv, hclose⟩

/-- No negative number lies above zero. -/
theorem zero_lt_ofRatio_true (num den : ℕ) :
    (float (zero false)).lt (float (ofRatio true num den)) = false := by
  have hvalue : ∀ {x : Binary64} {a : ℚ}, (float x).value? = some a → a ≤ 0 →
      (float (zero false)).lt (float x) = false := by
    intro x a hx ha
    rw [← Bool.not_eq_true, Number.lt_iff (value?_zero false) hx]
    exact not_lt.mpr ha
  have hsignificand : ∀ (m : ℕ) (q : ℤ),
      (float (zero false)).lt (float (ofSignificand true m q)) = false := by
    intro m q
    unfold ofSignificand
    split
    · rename_i hc
      have hm : (float (finite true m q hc)).value? = some (-(m * 2 ^ q) : ℚ) :=
        value?_neg (value?_finite hc)
      exact hvalue hm (neg_nonpos.mpr (by positivity))
    · rfl
  rcases Nat.eq_zero_or_pos num with rfl | hnum
  · exact hvalue (value?_zero true) le_rfl
  · rw [ofRatio_eq hnum]
    split <;> exact hsignificand ..

theorem value?_ofInt_one : (float (ofInt 1)).value? = some 1 := by
  have hone : ofInt 1 = finite false leastFull (-52) (by decide) := by decide
  rw [hone, value?_finite, cast_leastFull, ← zpow_add₀ two_ne_zero]
  norm_num

variable {x : Binary64} {v : ℚ}

/-- What is left of one after a number of at most one is computed closely. -/
theorem exists_value?_one_sub (hx : (float x).value? = some v) (hpos : 0 ≤ v) (hle : v ≤ 1) :
    ∃ w, (float ((ofInt 1).sub x)).value? = some w ∧ |w - (1 - v)| ≤ 2 ^ (-53 : ℤ) := by
  obtain ⟨sum, low, negative, hsum, hadd⟩ := exists_add_eq value?_ofInt_one (value?_neg hx)
  have hlow : (0 : ℚ) < 2 ^ low := by positivity
  have hnonneg : 0 ≤ sum := by
    have hproduct : (0 : ℚ) ≤ sum * 2 ^ low := by linarith
    exact_mod_cast nonneg_of_mul_nonneg_left hproduct hlow
  rw [sub, hadd]
  split
  · rename_i hzero
    have hone : v = 1 := by
      rw [hzero, Int.cast_zero, zero_mul] at hsum
      linarith
    exact ⟨0, value?_zero negative, by simp [hone]⟩
  · have habs : (sum.natAbs * 2 ^ low : ℚ) = 1 - v := by
      rw [Nat.cast_natAbs, abs_of_nonneg hnonneg, hsum]
      ring
    have hsign : decide (sum < 0) = false := decide_eq_false hnonneg.not_gt
    obtain ⟨w, hw, hclose⟩ := exists_value?_ofScaled (by linarith : (sum.natAbs * 2 ^ low : ℚ) ≤ 1)
    rw [habs] at hclose
    exact ⟨w, by rw [hsign, hw], hclose⟩

/-- Nothing is left of one after a number of at least one. -/
theorem zero_lt_one_sub (hx : (float x).value? = some v) (hle : 1 ≤ v) :
    (float (zero false)).lt (float ((ofInt 1).sub x)) = false := by
  obtain ⟨sum, low, negative, hsum, hadd⟩ := exists_add_eq value?_ofInt_one (value?_neg hx)
  have hlow : (0 : ℚ) < 2 ^ low := by positivity
  have hnonpos : sum ≤ 0 := by
    have hproduct : (sum * 2 ^ low : ℚ) ≤ 0 := by linarith
    exact_mod_cast nonpos_of_mul_nonpos_left hproduct hlow
  rw [sub, hadd]
  split
  · rw [← Bool.not_eq_true, Number.lt_iff (value?_zero false) (value?_zero negative)]
    exact lt_irrefl 0
  · rename_i hne
    rw [decide_eq_true (lt_of_le_of_ne hnonpos hne)]
    exact zero_lt_ofRatio_true ..

end Binary64

namespace Score

open Binary64

/-- The share that is left, in double precision. -/
theorem shareLeft_eq (flagged : ℕ) {total : ℕ} (h : 0 < total) :
    (shareLeft flagged total : Number) =
      if (float (zero false)).lt (float ((ofInt 1).sub (ofRatio false flagged total))) then
        float ((ofInt 1).sub (ofRatio false flagged total))
      else float (zero false) := by
  have hzero : (Scalar.decimal 0 0 : Number) = float (zero false) := by decide
  have hratio : Number.div (int flagged) (int total) = float (ofRatio false flagged total) := by
    have hne : (total : ℤ) ≠ 0 := by omega
    have hsigns : (decide ((flagged : ℤ) < 0) != decide ((total : ℤ) < 0)) = false := by
      rw [decide_eq_false (by omega), decide_eq_false (by omega)]
      rfl
    rw [Number.div, if_neg hne, hsigns]
    rfl
  have hleft : (Scalar.ofNat 1 - Scalar.ofNat flagged / Scalar.ofNat total : Number) =
      float ((ofInt 1).sub (ofRatio false flagged total)) := by
    change Number.sub (int 1) (Number.div (int flagged) (int total)) = _
    rw [hratio]
    rfl
  rw [shareLeft, hzero, hleft]
  rfl

/-- Nothing is left where as many are flagged as there are. -/
theorem shareLeft_eq_zero {flagged total : ℕ} (h : 0 < total) (hle : total ≤ flagged) :
    (shareLeft flagged total : Number) = float (zero false) := by
  have hlt : (float (zero false)).lt
      (float ((ofInt 1).sub (ofRatio false flagged total))) = false := by
    rcases ofRatio_eq_infinite_or_one_le h hle with hinf | ⟨v, hv, hone⟩
    · rw [hinf]
      decide
    · exact zero_lt_one_sub hv hone
  rw [shareLeft_eq flagged h, hlt]
  rfl

/-- The share that is left is computed closely. -/
theorem exists_value?_shareLeft {flagged total : ℕ} (h : 0 < total) (hle : flagged ≤ total) :
    ∃ v, (shareLeft flagged total : Number).value? = some v ∧
      |v - (1 - flagged / total)| ≤ 2 ^ (-52 : ℤ) := by
  obtain ⟨v, hv, hpos, hone, hquotient⟩ := exists_value?_ofRatio h hle
  obtain ⟨w, hw, hdifference⟩ := exists_value?_one_sub hv hpos hone
  have hclose : |w - (1 - flagged / total)| ≤ 2 ^ (-52 : ℤ) :=
    calc |w - (1 - flagged / total)|
        ≤ |w - (1 - v)| + |(1 - v) - (1 - flagged / total)| := abs_sub_le ..
      _ = |w - (1 - v)| + |v - flagged / total| := by
          rw [sub_sub_sub_cancel_left, abs_sub_comm v]
      _ ≤ 2 ^ (-53 : ℤ) + 2 ^ (-53 : ℤ) := add_le_add hdifference hquotient
      _ = 2 ^ (-52 : ℤ) := by norm_num
  rw [shareLeft_eq flagged h]
  split
  · exact ⟨w, hw, hclose⟩
  · rename_i hlt
    rw [Number.lt_iff (value?_zero false) hw, not_lt] at hlt
    have hshare : (flagged / total : ℚ) ≤ 1 :=
      div_le_one_of_le₀ (by exact_mod_cast hle) (Nat.cast_nonneg _)
    refine ⟨0, value?_zero false, ?_⟩
    calc |0 - (1 - flagged / total : ℚ)|
        = 1 - flagged / total := by rw [zero_sub, abs_neg, abs_of_nonneg (sub_nonneg.mpr hshare)]
      _ ≤ -(w - (1 - flagged / total)) := by linarith
      _ ≤ |w - (1 - flagged / total)| := neg_le_abs _
      _ ≤ 2 ^ (-52 : ℤ) := hclose

/-- Flagged things count until nothing is left. -/
theorem shareLeft_congr {flagged other total : ℕ} (h : 0 < total)
    (heq : min flagged total = min other total) :
    (shareLeft flagged total : Number) = shareLeft other total := by
  by_cases hle : total ≤ flagged
  · rw [shareLeft_eq_zero h hle, shareLeft_eq_zero h (by omega)]
  · rw [show flagged = other by omega]

/-- Among fewer than `2 ^ 50` things, one more that is flagged leaves less. -/
theorem shareLeft_ne_of_lt {flagged other total : ℕ} (hsmall : total < 2 ^ 50)
    (hlt : flagged < other) (hle : other ≤ total) :
    (shareLeft flagged total : Number) ≠ shareLeft other total := by
  intro heq
  have h : 0 < total := by omega
  have htotal : (0 : ℚ) < total := Nat.cast_pos.mpr h
  obtain ⟨v, hv, hfirst⟩ := exists_value?_shareLeft h (hlt.le.trans hle)
  obtain ⟨w, hw, hsecond⟩ := exists_value?_shareLeft h hle
  have hvw : v = w := Option.some.inj (by rw [← hv, ← hw, heq])
  have hf := abs_le.mp hfirst
  have hs := abs_le.mp hsecond
  have hstep : (flagged / total + 2 ^ (-50 : ℤ) : ℚ) < other / total := by
    have hnext : (flagged + 1 : ℚ) ≤ other := by exact_mod_cast hlt
    have hunit : (2 ^ (-50 : ℤ) * total : ℚ) < 1 := by
      have hcast : (total : ℚ) < 2 ^ (50 : ℤ) := by exact_mod_cast hsmall
      calc (2 ^ (-50 : ℤ) * total : ℚ) < 2 ^ (-50 : ℤ) * 2 ^ (50 : ℤ) := by gcongr
        _ = 1 := by norm_num
    rw [lt_div_iff₀ htotal, add_mul, div_mul_cancel₀ _ htotal.ne']
    linarith
  have hunits : (2 : ℚ) ^ (-50 : ℤ) = 4 * 2 ^ (-52 : ℤ) := by norm_num
  have hunit : (0 : ℚ) < 2 ^ (-52 : ℤ) := by positivity
  rw [hunits] at hstep
  rw [hvw] at hf
  linarith

/-- Among fewer than `2 ^ 50` things, numbers of flagged ones leave one share exactly if they are
the same or leave nothing. -/
theorem shareLeft_eq_iff {flagged other total : ℕ} (h : 0 < total) (hsmall : total < 2 ^ 50) :
    (shareLeft flagged total : Number) = shareLeft other total ↔
      min flagged total = min other total := by
  refine ⟨fun heq => ?_, shareLeft_congr h⟩
  have hsame : (shareLeft (min flagged total) total : Number) =
      shareLeft (min other total) total := by
    rw [shareLeft_congr h (show min (min flagged total) total = min flagged total by omega),
      shareLeft_congr h (show min (min other total) total = min other total by omega), heq]
  rcases lt_trichotomy (min flagged total) (min other total) with hlt | hmin | hlt
  · exact absurd hsame (shareLeft_ne_of_lt hsmall hlt (Nat.min_le_right ..))
  · exact hmin
  · exact absurd hsame.symm (shareLeft_ne_of_lt hsmall hlt (Nat.min_le_right ..))

end Score

end TagAudit
