import Mathlib
import TagAudit.Binary64.Shortest

/-!
# What a decimal text says

The text of a decimal is one of four layouts of its digits. Reading the digits, the places after
the point and the power of ten back gives the value of the decimal whatever the layout, so decimals
of one text have one value.
-/

namespace TagAudit.Decimal

/-- The number that a decimal stands for. -/
def value (d : Decimal) : ℚ := d.coefficient * 10 ^ d.exponent

/-- Dropping trailing zeros keeps the value. -/
theorem value_normalize (d : Decimal) (fuel : Nat) : (d.normalize fuel).value = d.value := by
  induction fuel generalizing d with
  | zero => rfl
  | succ fuel ih =>
    rw [normalize]
    split
    · rename_i h
      obtain ⟨k, hk⟩ : 10 ∣ d.coefficient := Nat.dvd_of_mod_eq_zero h.2
      rw [ih, value, value, hk, Nat.mul_div_cancel_left k (by decide), zpow_add_one₀ (by decide)]
      push_cast
      ring
    · rfl

/-- The power of ten that follows an `e`: a sign and digits, zero where nothing follows. -/
def writtenPower : List Char → ℤ
  | [] => 0
  | sign :: digits =>
    if sign = '-' then -(Nat.ofDigitChars 10 digits 0) else Nat.ofDigitChars 10 digits 0

/-- The number that a text of digits, perhaps with a point and a power of ten, says. -/
def written (s : List Char) : ℚ :=
  let mantissa := s.takeWhile (· != 'e')
  let whole := mantissa.takeWhile (· != '.')
  let fraction := mantissa.drop (whole.length + 1)
  Nat.ofDigitChars 10 (whole ++ fraction) 0 *
    10 ^ (writtenPower (s.drop (mantissa.length + 1)) - fraction.length)

/-- A list whose elements all pass a test, followed by one that does not, is what the test takes. -/
private theorem takeWhile_append_cons {α : Type} {p : α → Bool} {xs : List α}
    (h : ∀ x ∈ xs, p x = true) {y : α} (hy : p y = false) (ys : List α) :
    (xs ++ y :: ys).takeWhile p = xs := by
  rw [List.takeWhile_append_of_pos h, List.takeWhile_cons_of_neg (by simp [hy]), List.append_nil]

private theorem takeWhile_eq_self {α : Type} {p : α → Bool} {xs : List α}
    (h : ∀ x ∈ xs, p x = true) : xs.takeWhile p = xs :=
  List.takeWhile_eq_self_iff.mpr h

/-- The characters of a text that are neither a point nor an `e`. -/
def IsDigits (s : List Char) : Prop := ∀ c ∈ s, c.isDigit = true

theorem IsDigits.append {s t : List Char} (hs : IsDigits s) (ht : IsDigits t) :
    IsDigits (s ++ t) := by
  intro c hc
  rcases List.mem_append.mp hc with hc | hc
  · exact hs c hc
  · exact ht c hc

theorem isDigits_toDigits (n : Nat) : IsDigits (Nat.toDigits 10 n) :=
  fun _ hc => Nat.isDigit_of_mem_toDigits (by decide) (by decide) hc

theorem isDigits_replicate (n : Nat) : IsDigits (List.replicate n '0') := by
  intro c hc
  rw [List.eq_of_mem_replicate hc]
  rfl

private theorem ne_of_isDigit {c d : Char} (hc : c.isDigit = true) (hd : d.isDigit = false) :
    (c != d) = true := by
  rw [bne_iff_ne]
  rintro rfl
  rw [hc] at hd
  cases hd

/-- A text without a power of ten. -/
theorem written_point {whole fraction : List Char} (hw : IsDigits whole)
    (hf : IsDigits fraction) : written (whole ++ '.' :: fraction) =
      Nat.ofDigitChars 10 (whole ++ fraction) 0 * 10 ^ (-(fraction.length : ℤ)) := by
  have hmantissa : (whole ++ '.' :: fraction).takeWhile (· != 'e') = whole ++ '.' :: fraction := by
    refine takeWhile_eq_self fun c hc => ?_
    rcases List.mem_append.mp hc with hc | hc
    · exact ne_of_isDigit (hw c hc) rfl
    · rcases List.mem_cons.mp hc with rfl | hc
      · rfl
      · exact ne_of_isDigit (hf c hc) rfl
  have hwhole : (whole ++ '.' :: fraction).takeWhile (· != '.') = whole :=
    takeWhile_append_cons (fun c hc => ne_of_isDigit (hw c hc) rfl) rfl fraction
  have hfraction : (whole ++ '.' :: fraction).drop (whole.length + 1) = fraction := by simp
  have hrest : (whole ++ '.' :: fraction).drop ((whole ++ '.' :: fraction).length + 1) = [] :=
    List.drop_eq_nil_of_le (Nat.le_succ _)
  simp only [written, hmantissa, hwhole, hfraction, hrest, writtenPower, zero_sub]

/-- A text with a power of ten, and with a point unless there is nothing after it. -/
theorem written_power {whole fraction power : List Char} (hw : IsDigits whole)
    (hf : IsDigits fraction) :
    written (whole ++ (if fraction.isEmpty then [] else '.' :: fraction) ++ 'e' :: power) =
      Nat.ofDigitChars 10 (whole ++ fraction) 0 *
        10 ^ (writtenPower power - fraction.length) := by
  have hmantissa : ∀ mantissa : List Char, (∀ c ∈ mantissa, (c != 'e') = true) →
      (mantissa ++ 'e' :: power).takeWhile (· != 'e') = mantissa ∧
        (mantissa ++ 'e' :: power).drop (mantissa.length + 1) = power :=
    fun mantissa h => ⟨takeWhile_append_cons h rfl power, by simp⟩
  have hwe : ∀ c ∈ whole, (c != 'e') = true := fun c hc => ne_of_isDigit (hw c hc) rfl
  have hwp : ∀ c ∈ whole, (c != '.') = true := fun c hc => ne_of_isDigit (hw c hc) rfl
  cases fraction with
  | nil =>
    obtain ⟨hm, hp⟩ := hmantissa whole hwe
    have hfraction : whole.drop (whole.length + 1) = [] := List.drop_eq_nil_of_le (Nat.le_succ _)
    simp only [written, List.isEmpty_nil, if_true, List.append_nil, hm, hp, takeWhile_eq_self hwp,
      hfraction]
  | cons d rest =>
    have hall : ∀ c ∈ whole ++ '.' :: d :: rest, (c != 'e') = true := by
      intro c hc
      rcases List.mem_append.mp hc with hc | hc
      · exact hwe c hc
      · rcases List.mem_cons.mp hc with rfl | hc
        · rfl
        · exact ne_of_isDigit (hf c hc) rfl
    obtain ⟨hm, hp⟩ := hmantissa (whole ++ '.' :: d :: rest) hall
    have hwhole : (whole ++ '.' :: d :: rest).takeWhile (· != '.') = whole :=
      takeWhile_append_cons hwp rfl _
    have hfraction : (whole ++ '.' :: d :: rest).drop (whole.length + 1) = d :: rest := by simp
    simp only [written, List.isEmpty_cons, Bool.false_eq_true, if_false, hm, hp, hwhole, hfraction]

/-- A power of ten as it is written after an `e`: its sign and at least two digits. -/
def powerText (power : ℤ) : List Char :=
  (if power < 0 then '-' else '+') ::
    if (Nat.toDigits 10 power.natAbs).length < 2 then '0' :: Nat.toDigits 10 power.natAbs
    else Nat.toDigits 10 power.natAbs

/-- The written power of ten is read back. -/
theorem writtenPower_powerText (power : ℤ) : writtenPower (powerText power) = power := by
  have hmagnitude : Nat.ofDigitChars 10
      (if (Nat.toDigits 10 power.natAbs).length < 2 then '0' :: Nat.toDigits 10 power.natAbs
        else Nat.toDigits 10 power.natAbs) 0 = power.natAbs := by
    split
    · rw [Nat.ofDigitChars_cons]
      exact Nat.ofDigitChars_ten_toDigits
    · exact Nat.ofDigitChars_ten_toDigits
  rw [powerText, writtenPower, hmagnitude]
  by_cases h : power < 0
  · rw [if_pos h, if_pos rfl]
    omega
  · rw [if_neg h, if_neg (by decide)]
    omega

/-- A text lays a decimal out with a point among its digits. -/
structure PointLayout (d : Decimal) (s whole fraction : List Char) : Prop where
  text : s = whole ++ '.' :: fraction
  whole_ne_nil : whole ≠ []
  whole_digits : IsDigits whole
  fraction_digits : IsDigits fraction
  value : (Nat.ofDigitChars 10 (whole ++ fraction) 0 : ℚ) * 10 ^ (-(fraction.length : ℤ)) = d.value

/-- A text lays a decimal out with a power of ten after its digits. -/
structure PowerLayout (d : Decimal) (s whole fraction : List Char) (power : ℤ) : Prop where
  text : s = whole ++ (if fraction.isEmpty then [] else '.' :: fraction) ++ 'e' :: powerText power
  whole_ne_nil : whole ≠ []
  whole_digits : IsDigits whole
  fraction_digits : IsDigits fraction
  value : (Nat.ofDigitChars 10 (whole ++ fraction) 0 : ℚ) * 10 ^ (power - fraction.length) = d.value

/-- The text of a decimal has one of the two layouts. -/
theorem text_layout (d : Decimal) :
    (∃ whole fraction, PointLayout d d.text.toList whole fraction) ∨
      ∃ whole fraction power, PowerLayout d d.text.toList whole fraction power := by
  have hdigits := isDigits_toDigits d.coefficient
  have hcoefficient : Nat.ofDigitChars 10 (Nat.toDigits 10 d.coefficient) 0 = d.coefficient :=
    Nat.ofDigitChars_ten_toDigits
  have hlength : 0 < (Nat.toDigits 10 d.coefficient).length := Nat.length_toDigits_pos
  rw [text, String.toList_ofList]
  generalize Nat.toDigits 10 d.coefficient = digits at hdigits hcoefficient hlength
  have hne : digits ≠ [] := List.ne_nil_of_length_pos hlength
  dsimp only
  split
  · refine Or.inl ?_
    split
    · -- the point stands before all digits
      rename_i hpoint
      refine ⟨['0'], List.replicate (-(digits.length + d.exponent)).toNat '0' ++ digits, rfl,
        by simp, isDigits_replicate 1, (isDigits_replicate _).append hdigits, ?_⟩
      have hexponent : -((List.replicate (-(digits.length + d.exponent)).toNat '0' ++
          digits).length : ℤ) = d.exponent := by
        rw [List.length_append, List.length_replicate]
        omega
      rw [hexponent, Nat.ofDigitChars_append, Nat.ofDigitChars_append,
        Nat.ofDigitChars_replicate_zero, Decimal.value]
      simp [Nat.ofDigitChars_cons, hcoefficient]
    · split
      · -- the point stands after all digits
        rename_i hpoint hwritten
        refine ⟨digits ++ List.replicate ((digits.length + d.exponent).toNat - digits.length) '0',
          ['0'], rfl, by simp [hne], hdigits.append (isDigits_replicate _), isDigits_replicate 1,
          ?_⟩
        have hexponent : d.exponent =
            ((digits.length + d.exponent).toNat - digits.length : ℕ) := by omega
        rw [Nat.ofDigitChars_append, Nat.ofDigitChars_append, Nat.ofDigitChars_replicate_zero,
          hcoefficient, Decimal.value]
        generalize (digits.length + d.exponent).toNat - digits.length = zeros at hexponent
        rw [hexponent, zpow_natCast, Nat.ofDigitChars_cons]
        simp
        ring
      · -- the point stands among the digits
        rename_i hpoint hwritten
        refine ⟨digits.take (digits.length + d.exponent).toNat,
          digits.drop (digits.length + d.exponent).toNat, rfl, ?_,
          fun c hc => hdigits c (List.mem_of_mem_take hc),
          fun c hc => hdigits c (List.mem_of_mem_drop hc), ?_⟩
        · refine List.ne_nil_of_length_pos ?_
          rw [List.length_take]
          omega
        · have hexponent : -((digits.drop (digits.length + d.exponent).toNat).length : ℤ) =
              d.exponent := by
            rw [List.length_drop]
            omega
          rw [hexponent, List.take_append_drop, hcoefficient, Decimal.value]
  · refine Or.inr ⟨digits.take 1, digits.drop 1, digits.length + d.exponent - 1, ?_, ?_,
      fun c hc => hdigits c (List.mem_of_mem_take hc),
      fun c hc => hdigits c (List.mem_of_mem_drop hc), ?_⟩
    · rw [List.append_assoc, List.cons_append, List.cons_append, List.nil_append]
      rfl
    · refine List.ne_nil_of_length_pos ?_
      rw [List.length_take]
      omega
    · have hexponent : (digits.length + d.exponent - 1 : ℤ) - (digits.drop 1).length =
          d.exponent := by
        rw [List.length_drop]
        omega
      rw [hexponent, List.take_append_drop, hcoefficient, Decimal.value]

/-- The text of a decimal says its value. -/
theorem written_text (d : Decimal) : written d.text.toList = d.value := by
  obtain ⟨whole, fraction, h⟩ | ⟨whole, fraction, power, h⟩ := d.text_layout
  · rw [h.text, written_point h.whole_digits h.fraction_digits, h.value]
  · rw [h.text, written_power h.whole_digits h.fraction_digits, writtenPower_powerText, h.value]

/-- Decimals of one text have one value. -/
theorem value_eq_of_text_eq {d d' : Decimal} (h : d.text = d'.text) : d.value = d'.value := by
  rw [← written_text, ← written_text, h]

/-- A character that may stand in the text of a number: a digit, a point, a sign or an `e`. -/
def isNumeric (c : Char) : Bool := c.isDigit || c == '.' || c == 'e' || c == '-' || c == '+'

theorem IsDigits.isNumeric {s : List Char} (h : IsDigits s) : ∀ c ∈ s, isNumeric c = true :=
  fun c hc => by simp [Decimal.isNumeric, h c hc]

theorem isNumeric_of_mem_powerText {power : ℤ} {c : Char} (hc : c ∈ powerText power) :
    isNumeric c = true := by
  have hdigits := isDigits_toDigits power.natAbs
  have hzero : IsDigits ['0'] := isDigits_replicate 1
  rcases List.mem_cons.mp hc with rfl | hc
  · by_cases h : power < 0
    · rw [if_pos h]
      rfl
    · rw [if_neg h]
      rfl
  · split at hc
    · exact (hzero.append hdigits).isNumeric c hc
    · exact hdigits.isNumeric c hc

/-- The text of a decimal has no other characters. -/
theorem isNumeric_of_mem_text {d : Decimal} {c : Char} (hc : c ∈ d.text.toList) :
    isNumeric c = true := by
  obtain ⟨whole, fraction, h⟩ | ⟨whole, fraction, power, h⟩ := d.text_layout
  · rw [h.text] at hc
    rcases List.mem_append.mp hc with hc | hc
    · exact h.whole_digits.isNumeric c hc
    · rcases List.mem_cons.mp hc with rfl | hc
      · rfl
      · exact h.fraction_digits.isNumeric c hc
  · rw [h.text] at hc
    rcases List.mem_append.mp hc with hc | hc
    · rcases List.mem_append.mp hc with hc | hc
      · exact h.whole_digits.isNumeric c hc
      · split at hc
        · cases hc
        · rcases List.mem_cons.mp hc with rfl | hc
          · rfl
          · exact h.fraction_digits.isNumeric c hc
    · rcases List.mem_cons.mp hc with rfl | hc
      · rfl
      · exact isNumeric_of_mem_powerText hc

/-- The text of a decimal begins with a digit. -/
theorem exists_text_eq_cons (d : Decimal) :
    ∃ c rest, d.text.toList = c :: rest ∧ c.isDigit = true := by
  obtain ⟨whole, fraction, h⟩ | ⟨whole, fraction, power, h⟩ := d.text_layout <;>
    obtain ⟨c, rest, rfl⟩ := List.exists_cons_of_ne_nil h.whole_ne_nil
  · exact ⟨c, _, h.text, h.whole_digits c (List.mem_cons_self ..)⟩
  · exact ⟨c, _, h.text, h.whole_digits c (List.mem_cons_self ..)⟩

/-- The text of a decimal has a point or a power of ten, so it is never that of an integer. -/
theorem exists_mem_text (d : Decimal) : ∃ c ∈ d.text.toList, c = '.' ∨ c = 'e' := by
  obtain ⟨whole, fraction, h⟩ | ⟨whole, fraction, power, h⟩ := d.text_layout
  · exact ⟨'.', by simp [h.text], Or.inl rfl⟩
  · exact ⟨'e', by simp [h.text], Or.inr rfl⟩

end TagAudit.Decimal
