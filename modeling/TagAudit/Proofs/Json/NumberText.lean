import TagAudit.Json.Writer
import TagAudit.Proofs.Binary64.Shortest

/-!
# Texts of numbers

Different numbers have different texts: integers are written with digits alone, doubles with a
point or a power of ten, and the others by name. No text of a number has a character in it that
could end it.
-/

namespace TagAudit

namespace Binary64

/-- The decimal that the text of a magnitude writes. -/
def magnitudeDecimal (m : ℕ) (q : ℤ) : Decimal := if m = 0 then ⟨0, 0⟩ else shortest m q

/-- The text of a finite number is a sign and the text of a decimal. -/
theorem toList_text_finite (negative : Bool) {m : ℕ} {q : ℤ} (hc : Canonical m q) :
    (finite negative m q hc).text.toList =
      (if negative then ['-'] else []) ++ (magnitudeDecimal m q).text.toList := by
  have hzero : (⟨0, 0⟩ : Decimal).text = "0.0" := by decide
  have hmagnitude : (magnitudeDecimal m q).text = if m = 0 then "0.0" else (shortest m q).text := by
    rw [magnitudeDecimal]
    split
    · exact hzero
    · rfl
  rw [text, hmagnitude, String.toList_append]
  cases negative <;> rfl

/-- The decimals of canonical magnitudes differ in value. -/
theorem magnitudeDecimal_injective {m m' : ℕ} {q q' : ℤ} (hc : Canonical m q)
    (hc' : Canonical m' q') (h : (magnitudeDecimal m q).value = (magnitudeDecimal m' q').value) :
    m = m' ∧ q = q' := by
  have hzero : (⟨0, 0⟩ : Decimal).value = 0 := by simp [Decimal.value]
  have hleast : ∀ {n : ℕ} {e : ℤ}, Canonical n e → n = 0 → e = -1074 := by
    rintro n e ⟨-, -, -, hfull | he⟩ rfl
    · exact absurd hfull (by decide)
    · exact he
  unfold magnitudeDecimal at h
  by_cases hm : m = 0
  · by_cases hm' : m' = 0
    · exact ⟨hm.trans hm'.symm, (hleast hc hm).trans (hleast hc' hm').symm⟩
    · rw [if_pos hm, if_neg hm', hzero] at h
      exact absurd h (shortest_value_pos hm' hc').ne
  · by_cases hm' : m' = 0
    · rw [if_neg hm, if_pos hm', hzero] at h
      exact absurd h.symm (shortest_value_pos hm hc).ne
    · rw [if_neg hm, if_neg hm'] at h
      exact shortest_injective hm hm' hc hc' h

/-- Finite numbers of one text are equal. -/
theorem finite_eq_of_text_eq {negative negative' : Bool} {m m' : ℕ} {q q' : ℤ}
    {hc : Canonical m q} {hc' : Canonical m' q'}
    (h : (finite negative m q hc).text = (finite negative' m' q' hc').text) :
    finite negative m q hc = finite negative' m' q' hc' := by
  have hlists := congrArg String.toList h
  rw [toList_text_finite, toList_text_finite] at hlists
  have hsign : ∀ (d d' : Decimal), '-' :: d.text.toList ≠ d'.text.toList := by
    intro d d' he
    obtain ⟨c, rest, hcons, hdigit⟩ := d'.exists_text_eq_cons
    rw [hcons] at he
    rw [← (List.cons.inj he).1] at hdigit
    cases hdigit
  have htext : negative = negative' ∧
      (magnitudeDecimal m q).text.toList = (magnitudeDecimal m' q').text.toList := by
    cases negative <;> cases negative'
    · exact ⟨rfl, hlists⟩
    · exact absurd hlists.symm (hsign _ _)
    · exact absurd hlists (hsign _ _)
    · exact ⟨rfl, (List.cons.inj hlists).2⟩
  obtain ⟨rfl, htext⟩ := htext
  obtain ⟨rfl, rfl⟩ := magnitudeDecimal_injective hc hc'
    (Decimal.value_eq_of_text_eq (String.toList_injective htext))
  rfl

end Binary64

namespace Json

open Binary64 (Canonical)

/-- The text of an integer is made of digits and perhaps a sign before them. -/
theorem digit_or_sign_of_mem_int {n : ℤ} {c : Char} (hc : c ∈ numberText (.int n)) :
    c.isDigit = true ∨ c = '-' := by
  have htext : numberText (.int n) = n.repr.toList := rfl
  have hdigits : ∀ k : ℕ, c ∈ k.repr.toList → c.isDigit = true := by
    intro k hk
    rw [Nat.toList_repr] at hk
    exact Decimal.isDigits_toDigits k c hk
  rw [htext, Int.repr_eq_if] at hc
  split at hc
  · exact Or.inl (hdigits _ hc)
  · rw [String.toList_append] at hc
    rcases List.mem_append.mp hc with hc | hc
    · exact Or.inr (by simpa using hc)
    · exact Or.inl (hdigits _ hc)

/-- The text of a finite double is made of digits, points, signs and powers of ten. -/
theorem isNumeric_of_mem_finite {negative : Bool} {m : ℕ} {q : ℤ} {h : Canonical m q} {c : Char}
    (hc : c ∈ numberText (.float (.finite negative m q h))) : Decimal.isNumeric c = true := by
  change c ∈ (Binary64.finite negative m q h).text.toList at hc
  rw [Binary64.toList_text_finite] at hc
  rcases List.mem_append.mp hc with hc | hc
  · cases negative
    · cases hc
    · rw [List.mem_singleton.mp hc]
      rfl
  · exact Decimal.isNumeric_of_mem_text hc

/-- The text of a finite double has a point or a power of ten. -/
theorem exists_mem_finite (negative : Bool) {m : ℕ} {q : ℤ} (h : Canonical m q) :
    ∃ c ∈ numberText (.float (.finite negative m q h)), c = '.' ∨ c = 'e' := by
  obtain ⟨c, hc, he⟩ := (Binary64.magnitudeDecimal m q).exists_mem_text
  refine ⟨c, ?_, he⟩
  change c ∈ (Binary64.finite negative m q h).text.toList
  rw [Binary64.toList_text_finite]
  exact List.mem_append_right _ hc

/-- No integer is written like a finite double. -/
theorem numberText_int_ne_finite (n : ℤ) (negative : Bool) {m : ℕ} {q : ℤ} (h : Canonical m q) :
    numberText (.int n) ≠ numberText (.float (.finite negative m q h)) := by
  intro he
  obtain ⟨c, hc, hpoint⟩ := exists_mem_finite negative h
  rw [← he] at hc
  rcases digit_or_sign_of_mem_int hc with hd | rfl
  · rcases hpoint with rfl | rfl <;> cases hd
  · rcases hpoint with hp | hp <;> cases hp

/-- The letter that only the name of an undefined number has. -/
theorem mem_N_iff (n : Number) : 'N' ∈ numberText n ↔ n = .float .nan := by
  constructor
  · intro hc
    cases n with
    | int n => rcases digit_or_sign_of_mem_int hc with hd | he <;> contradiction
    | float x =>
      cases x with
      | nan => rfl
      | infinite negative => cases negative <;> exact absurd hc (by decide)
      | finite negative m q h => exact absurd (isNumeric_of_mem_finite hc) (by decide)
  · rintro rfl
    decide

/-- The letter that only the names of infinities have. -/
theorem mem_I_iff (n : Number) :
    'I' ∈ numberText n ↔ ∃ negative, n = .float (.infinite negative) := by
  constructor
  · intro hc
    cases n with
    | int n => rcases digit_or_sign_of_mem_int hc with hd | he <;> contradiction
    | float x =>
      cases x with
      | nan => exact absurd hc (by decide)
      | infinite negative => exact ⟨negative, rfl⟩
      | finite negative m q h => exact absurd (isNumeric_of_mem_finite hc) (by decide)
  · rintro ⟨negative, rfl⟩
    cases negative <;> decide

/-- Different numbers have different texts. -/
theorem numberText_injective : Function.Injective numberText := by
  intro a b h
  by_cases hN : 'N' ∈ numberText a
  · rw [(mem_N_iff a).mp hN, (mem_N_iff b).mp (h ▸ hN)]
  by_cases hI : 'I' ∈ numberText a
  · obtain ⟨negative, rfl⟩ := (mem_I_iff a).mp hI
    obtain ⟨negative', rfl⟩ := (mem_I_iff b).mp (h ▸ hI)
    cases negative <;> cases negative' <;> first | rfl | exact absurd h (by decide)
  have hN' : 'N' ∉ numberText b := h ▸ hN
  have hI' : 'I' ∉ numberText b := h ▸ hI
  rw [mem_N_iff] at hN hN'
  rw [mem_I_iff] at hI hI'
  rcases a with a | _ | sign | ⟨negative, m, q, hc⟩
  · rcases b with b | _ | sign | ⟨negative', m', q', hc'⟩
    · have htext : a.repr.toList = b.repr.toList := h
      rw [Int.repr_injective (String.toList_injective htext)]
    · exact absurd rfl hN'
    · exact absurd ⟨sign, rfl⟩ hI'
    · exact absurd h (numberText_int_ne_finite a negative' hc')
  · exact absurd rfl hN
  · exact absurd ⟨sign, rfl⟩ hI
  · rcases b with b | _ | sign | ⟨negative', m', q', hc'⟩
    · exact absurd h.symm (numberText_int_ne_finite b negative hc)
    · exact absurd rfl hN'
    · exact absurd ⟨sign, rfl⟩ hI'
    · exact congrArg Number.float (Binary64.finite_eq_of_text_eq (String.toList_injective h))

/-- A character that can follow a value: a comma, or the end of an array or of an object. -/
def isDelimiter (c : Char) : Bool := c == ',' || c == ']' || c == '\x7d'

/-- The text of a number has no character that can follow a value. -/
theorem not_isDelimiter_of_mem_numberText {n : Number} {c : Char} (hc : c ∈ numberText n) :
    isDelimiter c = false := by
  have hother : ∀ d, isDelimiter d = true → d.isDigit = false ∧ d ≠ '-' ∧
      Decimal.isNumeric d = false := by
    intro d hd
    have hcases : (d = ',' ∨ d = ']') ∨ d = '\x7d' := by simpa [isDelimiter] using hd
    rcases hcases with (rfl | rfl) | rfl <;> decide
  by_contra hd
  obtain ⟨hdigit, hsign, hnumeric⟩ := hother c (by simpa using hd)
  rcases n with n | _ | sign | ⟨negative, m, q, h⟩
  · rcases digit_or_sign_of_mem_int hc with he | he
    · rw [hdigit] at he
      cases he
    · exact hsign he
  · have hall : (numberText (.float .nan)).all (!isDelimiter ·) = true := by decide
    exact hd (by simpa using List.all_eq_true.mp hall c hc)
  · have hall : (numberText (.float (.infinite sign))).all (!isDelimiter ·) = true := by
      cases sign <;> decide
    exact hd (by simpa using List.all_eq_true.mp hall c hc)
  · rw [isNumeric_of_mem_finite hc] at hnumeric
    cases hnumeric

/-- The text of a number begins with a digit, a sign or a capital letter. -/
theorem exists_numberText_eq_cons (n : Number) : ∃ c rest, numberText n = c :: rest ∧
    (c.isDigit = true ∨ c = '-' ∨ c = 'N' ∨ c = 'I') := by
  rcases n with n | _ | sign | ⟨negative, m, q, h⟩
  · have hne : numberText (.int n) ≠ [] := by
      change n.repr.toList ≠ []
      rw [Int.repr_eq_if]
      split
      · rw [Nat.toList_repr]
        exact Nat.toDigits_ne_nil
      · rw [String.toList_append]
        simp
    obtain ⟨c, rest, he⟩ := List.exists_cons_of_ne_nil hne
    have hc : c ∈ numberText (.int n) := he ▸ List.mem_cons_self ..
    rcases digit_or_sign_of_mem_int hc with hd | hs
    · exact ⟨c, rest, he, Or.inl hd⟩
    · exact ⟨c, rest, he, Or.inr (Or.inl hs)⟩
  · exact ⟨'N', ['a', 'N'], by decide, by decide⟩
  · cases sign
    · exact ⟨'I', "nfinity".toList, by decide, by decide⟩
    · exact ⟨'-', "Infinity".toList, by decide, by decide⟩
  · obtain ⟨c, rest, he, hd⟩ := (Binary64.magnitudeDecimal m q).exists_text_eq_cons
    have htext : numberText (.float (.finite negative m q h)) =
        (if negative then ['-'] else []) ++ (Binary64.magnitudeDecimal m q).text.toList :=
      Binary64.toList_text_finite negative h
    rw [htext, he]
    cases negative
    · exact ⟨c, rest, rfl, Or.inl hd⟩
    · exact ⟨'-', c :: rest, rfl, Or.inr (Or.inl rfl)⟩

end Json

end TagAudit
