import Mathlib
import TagAudit.Json.Reader
import TagAudit.Json.Writer

/-!
# Texts of strings

The reader of JSON reads every string of the canonical form back, escapes and surrogate pairs
included. So a string in quotes tells where it ends and what it was.
-/

namespace TagAudit.Json

/-- Four hexadecimal digits of a code unit. -/
theorem hexText_four {n : ℕ} (h : n < 0x10000) :
    hexText 4 n = [(n / 4096).digitChar, (n / 256 % 16).digitChar, (n / 16 % 16).digitChar,
      (n % 16).digitChar] := by
  have hzero : (0 : ℕ).digitChar = '0' := rfl
  have hone : ∀ {k : ℕ}, k < 16 → Nat.toDigits 16 k = [k.digitChar] := Nat.toDigits_of_lt_base
  have hmore : ∀ {k : ℕ}, 16 ≤ k →
      Nat.toDigits 16 k = Nat.toDigits 16 (k / 16) ++ [(k % 16).digitChar] :=
    Nat.toDigits_of_base_le (by decide)
  unfold hexText
  by_cases h1 : n < 16
  · rw [hone h1, Nat.div_eq_of_lt (by omega), Nat.div_eq_of_lt (by omega),
      Nat.div_eq_of_lt (by omega), Nat.mod_eq_of_lt h1, hzero]
    rfl
  by_cases h2 : n < 256
  · rw [hmore (by omega), hone (by omega), Nat.div_eq_of_lt (show n < 4096 by omega),
      Nat.div_eq_of_lt h2, Nat.mod_eq_of_lt (show n / 16 < 16 by omega), hzero]
    rfl
  by_cases h3 : n < 4096
  · rw [hmore (by omega), hmore (show 16 ≤ n / 16 by omega), hone (by omega),
      Nat.div_div_eq_div_mul, Nat.div_eq_of_lt h3,
      Nat.mod_eq_of_lt (show n / 256 < 16 by omega), hzero]
    rfl
  · have h256 : n / 16 / 16 = n / 256 := by omega
    have h4096 : n / 256 / 16 = n / 4096 := by omega
    rw [hmore (by omega), hmore (show 16 ≤ n / 16 by omega), h256,
      hmore (show 16 ≤ n / 256 by omega), h4096, hone (by omega)]
    rfl

/-- A hexadecimal digit is read back. -/
theorem hexDigit?_digitChar {k : ℕ} (h : k < 16) : hexDigit? k.digitChar = some k := by
  interval_cases k <;> rfl

/-- Four hexadecimal digits are read back. -/
theorem hex4?_digitChar {n : ℕ} (h : n < 0x10000) :
    hex4? (n / 4096).digitChar (n / 256 % 16).digitChar (n / 16 % 16).digitChar
      (n % 16).digitChar = some n := by
  rw [hex4?, hexDigit?_digitChar (by omega), hexDigit?_digitChar (by omega),
    hexDigit?_digitChar (by omega), hexDigit?_digitChar (by omega)]
  refine congrArg some ?_
  omega

/-- The code point of a character is no half of a surrogate pair. -/
theorem not_surrogate (c : Char) : ¬ (0xD800 ≤ c.toNat ∧ c.toNat < 0xE000) := by
  rcases c.valid with h | h
  · change c.toNat < 0xD800 at h
    omega
  · have hlow : 0xDFFF < c.toNat := h.1
    omega

/-- The text of a character in the canonical form: an escape, itself, a code unit or a pair of
them. -/
theorem asciiChar_cases (c : Char) :
    (∃ letter, asciiChar c = ['\\', letter] ∧ letter ≠ 'u' ∧ simpleEscape? letter = some c) ∨
      (asciiChar c = [c] ∧ c ≠ '"' ∧ c ≠ '\\' ∧ 0x20 ≤ c.toNat) ∨
      (c.toNat < 0x10000 ∧ asciiChar c = unitEscape c.toNat) ∨
      (0x10000 ≤ c.toNat ∧ asciiChar c = unitEscape (0xD800 + (c.toNat - 0x10000) / 0x400) ++
        unitEscape (0xDC00 + (c.toNat - 0x10000) % 0x400)) := by
  unfold asciiChar commonEscape?
  split
  · rename_i escape h
    refine Or.inl ?_
    split at h <;> cases h <;> exact ⟨_, rfl, by decide, rfl⟩
  · rename_i h
    refine Or.inr ?_
    dsimp only
    split
    · rename_i hplain
      refine Or.inl ⟨rfl, ?_, ?_, hplain.1⟩
      · rintro rfl
        cases h
      · rintro rfl
        cases h
    · split
      · rename_i hunit
        exact Or.inr (Or.inl ⟨hunit, rfl⟩)
      · rename_i hpair
        exact Or.inr (Or.inr ⟨by omega, rfl⟩)

section Reader

variable (remaining : ℕ) (read : List Char) (next : Char) (rest : List Char)

/-- A character that stands for itself is read as itself. -/
theorem readString_plain {c : Char} (hquote : c ≠ '"') (hback : c ≠ '\\')
    (hcontrol : 0x20 ≤ c.toNat) :
    readString remaining read (c :: rest) = readString remaining (c :: read) rest := by
  rw [readString]
  · rw [if_neg (by omega)]
  · exact hquote
  · exact hback

/-- A backslash and a letter are read as the character they stand for. -/
theorem readString_simple {letter c : Char} (hu : letter ≠ 'u')
    (hs : simpleEscape? letter = some c) :
    readString remaining read ('\\' :: letter :: rest) =
      readString remaining (c :: read) rest := by
  rw [readString]
  · rw [hs]
  · exact hu

/-- A code unit that is no half of a surrogate pair is read as its character. -/
theorem readString_unit {n : ℕ} (hn : n < 0x10000) (hs : ¬ (0xD800 ≤ n ∧ n < 0xE000)) :
    readString remaining read (unitEscape n ++ next :: rest) =
      readString remaining (Char.ofNat n :: read) (next :: rest) := by
  rw [unitEscape, hexText_four hn]
  simp only [List.cons_append, List.nil_append]
  rw [readString]
  dsimp only
  rw [hex4?_digitChar hn]
  dsimp only
  rw [if_neg (by omega), if_neg (by omega)]

/-- A surrogate pair is read as one character. -/
theorem readString_pair {n : ℕ} (hn : n < 0x100000) :
    readString remaining read
        (unitEscape (0xD800 + n / 0x400) ++ unitEscape (0xDC00 + n % 0x400) ++ next :: rest) =
      readString remaining (Char.ofNat (0x10000 + n) :: read) (next :: rest) := by
  rw [unitEscape, unitEscape, hexText_four (show 0xD800 + n / 0x400 < 0x10000 by omega),
    hexText_four (show 0xDC00 + n % 0x400 < 0x10000 by omega)]
  simp only [List.cons_append, List.nil_append]
  rw [readString]
  dsimp only
  rw [hex4?_digitChar (show 0xD800 + n / 0x400 < 0x10000 by omega)]
  dsimp only
  rw [if_pos (by omega)]
  simp only [hex4?_digitChar (show 0xDC00 + n % 0x400 < 0x10000 by omega)]
  have hpoint : 0x10000 + (0xD800 + n / 0x400 - 0xD800) * 0x400 +
      (0xDC00 + n % 0x400 - 0xDC00) = 0x10000 + n := by omega
  rw [if_pos (by omega), hpoint]

/-- The text of a character is read as the character. -/
theorem readString_asciiChar (c : Char) :
    readString remaining read (asciiChar c ++ next :: rest) =
      readString remaining (c :: read) (next :: rest) := by
  rcases asciiChar_cases c with ⟨letter, he, hu, hs⟩ | ⟨he, hquote, hback, hcontrol⟩ |
    ⟨hunit, he⟩ | ⟨hpair, he⟩
  · rw [he]
    exact readString_simple remaining read (next :: rest) hu hs
  · rw [he]
    exact readString_plain remaining read (next :: rest) hquote hback hcontrol
  · rw [he, readString_unit remaining read next rest hunit (not_surrogate c), Char.ofNat_toNat]
  · have hmax : c.toNat < 0x110000 := by
      rcases c.valid with h | h
      · change c.toNat < 0xD800 at h
        omega
      · exact h.2
    rw [he, readString_pair remaining read next rest (by omega), Nat.add_sub_cancel' hpair,
      Char.ofNat_toNat]

/-- The characters of a string up to its closing quote are read as the string. -/
theorem readString_flatMap_asciiChar (s : List Char) :
    readString remaining read (s.flatMap asciiChar ++ '"' :: rest) =
      .ok (.ofList (read.reverse ++ s), rest) := by
  induction s generalizing read with
  | nil =>
    rw [List.flatMap_nil, List.nil_append, readString, List.append_nil]
  | cons c s ih =>
    have hnext : ∃ next after, s.flatMap asciiChar ++ '"' :: rest = next :: after :=
      List.exists_cons_of_ne_nil (by simp)
    obtain ⟨next, after, hn⟩ := hnext
    rw [List.flatMap_cons, List.append_assoc, hn, readString_asciiChar, ← hn, ih,
      List.reverse_cons, List.append_assoc, List.singleton_append]

end Reader

/-- A string in quotes tells where it ends and what it was. -/
theorem quoted_append_inj {s t : String} {r u : List Char}
    (h : quoted asciiChar s ++ r = quoted asciiChar t ++ u) : s = t ∧ r = u := by
  have hread : ∀ (s : String) (r : List Char),
      readString 0 [] ((quoted asciiChar s ++ r).drop 1) = .ok (s, r) := by
    intro s r
    rw [quoted, List.cons_append, List.cons_append, List.drop_succ_cons, List.drop_zero,
      List.append_assoc, List.singleton_append, readString_flatMap_asciiChar, List.reverse_nil,
      List.nil_append, String.ofList_toList]
  have hpair := (hread s r).symm.trans ((congrArg _ (congrArg _ h)).trans (hread t u))
  exact Prod.mk.inj (Except.ok.inj hpair)

end TagAudit.Json
