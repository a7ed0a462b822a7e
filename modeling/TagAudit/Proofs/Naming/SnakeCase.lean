import Mathlib.Data.List.Chain
import TagAudit.Naming

/-!
# Snake case names

The suggested name is made of words of lower case letters and digits with single underscores between
them, begins with a letter and does not end with an underscore. Putting a word in front, filling up
and cutting off are shown one after another to keep this, and with it the bounds of the length:
since no two underscores stand side by side, a name that is cut off loses at most one more
character.
-/

namespace TagAudit

namespace Text

/-- The pieces of a text have no character at which it is cut. -/
theorem eq_false_of_mem_splitAt {p : Char → Bool} {s piece : List Char} (h : piece ∈ splitAt p s) :
    ∀ c ∈ piece, p c = false := by
  induction s generalizing piece with
  | nil =>
    obtain rfl := List.mem_singleton.mp h
    exact List.forall_mem_nil _
  | cons d s ih =>
    rw [splitAt] at h
    split at h
    next =>
      rcases List.mem_cons.mp h with rfl | h
      · exact List.forall_mem_nil _
      · exact ih h
    next hd =>
      split at h
      next =>
        obtain rfl := List.mem_singleton.mp h
        simpa using hd
      next first pieces hpieces =>
        rw [hpieces] at ih
        rcases List.mem_cons.mp h with rfl | h
        · exact List.forall_mem_cons.mpr ⟨by simpa using hd, ih (List.mem_cons_self ..)⟩
        · exact ih (List.mem_cons_of_mem _ h)

/-- The last character is trimmed, or it ends the trimmed text. -/
theorem trimEnd_concat (p : Char → Bool) (s : List Char) (c : Char) :
    trimEnd p (s ++ [c]) = if p c then trimEnd p s else s ++ [c] := by
  rw [trimEnd, List.reverse_append, List.reverse_singleton, List.singleton_append,
    List.dropWhile_cons]
  split
  · rfl
  · rw [List.reverse_cons, List.reverse_reverse]

end Text

namespace Naming

section Characters

/-- A lower case letter or a digit. -/
def isWordChar (c : Char) : Bool := c.isLower || c.isDigit

theorem ne_underscore_of_isWordChar {c : Char} (h : isWordChar c = true) : c ≠ '_' := by
  rintro rfl
  cases h

theorem isLower_iff {c : Char} : c.isLower = true ↔ 97 ≤ c.val.toNat ∧ c.val.toNat ≤ 122 := by
  have hbounds : c.isLower = (decide (c.val ≥ 'a'.val) && decide (c.val ≤ 'z'.val)) := rfl
  rw [hbounds, Bool.and_eq_true, decide_eq_true_iff, decide_eq_true_iff]
  exact Iff.rfl

theorem isUpper_iff {c : Char} : c.isUpper = true ↔ 65 ≤ c.val.toNat ∧ c.val.toNat ≤ 90 := by
  have hbounds : c.isUpper = decide (c.val ≥ 'A'.val ∧ c.val ≤ 'Z'.val) := rfl
  rw [hbounds, decide_eq_true_iff]
  exact Iff.rfl

theorem isDigit_iff {c : Char} : c.isDigit = true ↔ 48 ≤ c.val.toNat ∧ c.val.toNat ≤ 57 := by
  have hbounds : c.isDigit = (decide (c.val ≥ '0'.val) && decide (c.val ≤ '9'.val)) := rfl
  rw [hbounds, Bool.and_eq_true, decide_eq_true_iff, decide_eq_true_iff]
  exact Iff.rfl

/-- A letter or a digit becomes a lower case letter or a digit. -/
theorem isWordChar_toLower {c : Char} (h : c.isAlphanum = true) :
    isWordChar c.toLower = true := by
  by_cases hupper : c.isUpper = true
  · have hbounds : c.val ≥ 'A'.val ∧ c.val ≤ 'Z'.val := isUpper_iff.mp hupper
    have hshifted : c.toLower.val = c.val + ('a'.val - 'A'.val) :=
      congrArg Char.val (dif_pos hbounds)
    have hshift : ('a'.val - 'A'.val).toNat = 32 := rfl
    have hlower : c.toLower.isLower = true := by
      obtain ⟨hfirst, hlast⟩ := isUpper_iff.mp hupper
      rw [isLower_iff, hshifted, UInt32.toNat_add, hshift]
      omega
    rw [isWordChar, hlower, Bool.true_or]
  · have hsame : c.toLower = c := dif_neg fun hbounds => hupper (isUpper_iff.mpr hbounds)
    have hkinds : (c.isUpper || c.isLower || c.isDigit) = true := h
    rw [Bool.eq_false_iff.mpr hupper, Bool.false_or] at hkinds
    rw [hsame]
    exact hkinds

/-- Only the letters among the characters of words are letters. -/
theorem isLower_of_isAlpha {c : Char} (h : isWordChar c = true) (hletter : c.isAlpha = true) :
    c.isLower = true := by
  rcases (Bool.or_eq_true ..).mp h with hlower | hdigit
  · exact hlower
  · rcases (Bool.or_eq_true ..).mp hletter with hupper | hlower
    · have hletters := isUpper_iff.mp hupper
      have hdigits := isDigit_iff.mp hdigit
      omega
    · exact hlower

end Characters

section Words

/-- A word of a suggested name. -/
structure IsWord (word : List Char) : Prop where
  nonempty : word ≠ []
  chars : ∀ c ∈ word, isWordChar c = true

/-- The words of a name are words of a suggested name. -/
theorem isWord_of_mem_words {name word : List Char} (h : word ∈ words name) : IsWord word := by
  obtain ⟨piece, hpiece, rfl⟩ := List.mem_map.mp h
  obtain ⟨hmem, hnonempty⟩ := List.mem_filter.mp hpiece
  constructor
  · simpa using hnonempty
  · intro c hc
    obtain ⟨d, hd, rfl⟩ := List.mem_map.mp hc
    have hcut := Text.eq_false_of_mem_splitAt hmem d hd
    exact isWordChar_toLower (by simpa using hcut)

/-- Words with single underscores between them and none at either end. -/
structure IsJoined (name : List Char) : Prop where
  chars : ∀ c ∈ name, isWordChar c = true ∨ c = '_'
  single : name.IsChain fun a b => ¬ (a = '_' ∧ b = '_')
  starts : name.head? ≠ some '_'
  ends : name.getLast? ≠ some '_'

theorem isWord_tag : IsWord "tag".toList := ⟨by decide, List.all_eq_true.mp (by decide)⟩

theorem isJoined_nil : IsJoined [] :=
  ⟨List.forall_mem_nil _, List.isChain_nil, by simp, by simp⟩

theorem IsWord.isJoined {word : List Char} (h : IsWord word) : IsJoined word := by
  have hnone : '_' ∉ word := fun hmem => ne_underscore_of_isWordChar (h.chars _ hmem) rfl
  refine ⟨fun c hc => .inl (h.chars c hc), ?_, ?_, ?_⟩
  · refine (List.pairwise_of_forall_mem_list ?_).isChain
    rintro a ha b - ⟨rfl, -⟩
    exact hnone ha
  · intro hstarts
    exact hnone (List.mem_of_mem_head? hstarts)
  · intro hends
    exact hnone (List.mem_of_getLast? hends)

/-- An underscore between joined names joins them. -/
theorem IsJoined.append {s t : List Char} (hs : IsJoined s) (ht : IsJoined t) (hnes : s ≠ [])
    (hnet : t ≠ []) : IsJoined (s ++ '_' :: t) := by
  constructor
  · intro c hc
    rcases List.mem_append.mp hc with hc | hc
    · exact hs.chars c hc
    · rcases List.mem_cons.mp hc with rfl | hc
      · exact .inr rfl
      · exact ht.chars c hc
  · have hlater : ('_' :: t).IsChain fun a b => ¬ (a = '_' ∧ b = '_') := by
      refine List.isChain_cons.mpr ⟨?_, ht.single⟩
      rintro c hc ⟨-, rfl⟩
      exact ht.starts hc
    refine List.isChain_append.mpr ⟨hs.single, hlater, ?_⟩
    rintro c hc d - ⟨rfl, -⟩
    exact hs.ends hc
  · rw [List.head?_append_of_ne_nil _ hnes]
    exact hs.starts
  · have hcons : ('_' :: t).getLast? = t.getLast? := by
      rw [List.getLast?_cons_of_ne_nil hnet]
    rw [List.getLast?_append_of_ne_nil _ (by simp), hcons]
    exact ht.ends

/-- Words with underscores put between them are joined. -/
theorem isJoined_intersperse {words : List (List Char)} (h : ∀ word ∈ words, IsWord word) :
    IsJoined (words.intersperse ['_']).flatten := by
  induction words with
  | nil => exact isJoined_nil
  | cons word words ih =>
    obtain ⟨hword, hwords⟩ := List.forall_mem_cons.mp h
    cases words with
    | nil => simpa using hword.isJoined
    | cons next words =>
      have hflatten : ((word :: next :: words).intersperse ['_']).flatten =
          word ++ '_' :: ((next :: words).intersperse ['_']).flatten := by
        rw [List.intersperse_cons_cons, List.flatten_cons, List.flatten_cons,
          List.singleton_append]
      have hnext : ((next :: words).intersperse ['_']).flatten ≠ [] := by
        have hne : next ≠ [] := (hwords next (List.mem_cons_self ..)).nonempty
        cases words <;> simp [hne]
      rw [hflatten]
      exact hword.isJoined.append (ih hwords) hword.nonempty hnext

end Words

section Steps

/-- Words of lower case letters and digits with single underscores between them, of which the first
begins with a letter. -/
structure IsSnakeCase (name : List Char) : Prop extends IsJoined name where
  letter : name.head?.any Char.isLower = true

theorem IsSnakeCase.ne_nil {name : List Char} (h : IsSnakeCase name) : name ≠ [] := by
  rintro rfl
  cases h.letter

/-- A letter or the front is what a joined name begins with. -/
theorem isSnakeCase_lettered {name : List Char} (h : IsJoined name) (hne : name ≠ []) :
    IsSnakeCase
      (if name.head?.any Char.isAlpha then name else "tag_".toList ++ name) := by
  split
  next hletter =>
    obtain ⟨first, rest, rfl⟩ := List.exists_cons_of_ne_nil hne
    have hchar : isWordChar first = true := by
      rcases h.chars first (List.mem_cons_self ..) with hchar | rfl
      · exact hchar
      · exact absurd rfl h.starts
    exact ⟨h, isLower_of_isAlpha hchar hletter⟩
  next =>
    have happend : "tag_".toList ++ name = "tag".toList ++ '_' :: name := rfl
    rw [happend]
    exact ⟨isWord_tag.isJoined.append h isWord_tag.nonempty hne, rfl⟩

/-- A short name is filled up. -/
theorem isSnakeCase_filled {name : List Char} (h : IsSnakeCase name) :
    IsSnakeCase (if name.length < 3 then name ++ "_tag".toList else name) ∧
      3 ≤ (if name.length < 3 then name ++ "_tag".toList else name).length := by
  split
  next =>
    have happend : name ++ "_tag".toList = name ++ '_' :: "tag".toList := rfl
    rw [happend]
    refine ⟨⟨h.append isWord_tag.isJoined h.ne_nil isWord_tag.nonempty, ?_⟩, by simp⟩
    rw [List.head?_append_of_ne_nil _ h.ne_nil]
    exact h.letter
  next hlong => exact ⟨h, Nat.le_of_not_lt hlong⟩

/-- Nothing is trimmed from a name that does not end with an underscore. -/
theorem trimEnd_of_getLast? {name : List Char} (h : name.getLast? ≠ some '_') :
    Text.trimEnd (· == '_') name = name := by
  rcases List.eq_nil_or_concat name with rfl | ⟨front, last, rfl⟩
  · rfl
  · rw [List.concat_eq_append, List.getLast?_concat] at h
    have hlast : ¬ (last == '_') = true := by simpa using h
    rw [List.concat_eq_append, Text.trimEnd_concat, if_neg hlast]

/-- The beginning of a name is trimmed by one underscore at most. -/
theorem isSnakeCase_trimEnd {name front : List Char} (h : IsSnakeCase name)
    (hstarts : front <+: name) (hne : front ≠ []) :
    IsSnakeCase (Text.trimEnd (· == '_') front) ∧
      front.length ≤ (Text.trimEnd (· == '_') front).length + 1 ∧
      (Text.trimEnd (· == '_') front).length ≤ front.length := by
  obtain ⟨rest, rfl⟩ := hstarts
  have hletter : front.head?.any Char.isLower = true := by
    rw [← List.head?_append_of_ne_nil front hne]
    exact h.letter
  have hchars : ∀ c ∈ front, isWordChar c = true ∨ c = '_' :=
    fun c hc => h.chars c (List.mem_append_left _ hc)
  have hsingle := h.single.left_of_append
  have hstarts : front.head? ≠ some '_' := by
    rw [← List.head?_append_of_ne_nil front hne]
    exact h.starts
  by_cases hends : front.getLast? = some '_'
  · obtain ⟨kept, rfl⟩ := List.getLast?_eq_some_iff.mp hends
    obtain ⟨hkept, -, hseam⟩ := List.isChain_append.mp hsingle
    have hkeptends : kept.getLast? ≠ some '_' :=
      fun hlast => hseam '_' hlast '_' rfl ⟨rfl, rfl⟩
    have hkeptne : kept ≠ [] := by
      rintro rfl
      exact hstarts rfl
    rw [List.head?_append_of_ne_nil _ hkeptne] at hletter hstarts
    have hunderscore : ('_' == '_') = true := rfl
    rw [Text.trimEnd_concat, if_pos hunderscore, trimEnd_of_getLast? hkeptends]
    refine ⟨⟨⟨?_, hkept, hstarts, hkeptends⟩, hletter⟩, by simp, by simp⟩
    exact fun c hc => hchars c (List.mem_append_left _ hc)
  · rw [trimEnd_of_getLast? hends]
    exact ⟨⟨⟨hchars, hsingle, hstarts, hends⟩, hletter⟩, Nat.le_succ _, Nat.le_refl _⟩

/-- A name that is cut off keeps to the bounds. -/
theorem isSnakeCase_cut {name : List Char} (h : IsSnakeCase name) (hlength : 3 ≤ name.length) :
    IsSnakeCase (Text.trimEnd (· == '_') (name.take maxSuggestionLength)) ∧
      3 ≤ (Text.trimEnd (· == '_') (name.take maxSuggestionLength)).length ∧
      (Text.trimEnd (· == '_') (name.take maxSuggestionLength)).length ≤
        maxSuggestionLength := by
  by_cases hfits : name.length ≤ maxSuggestionLength
  · rw [List.take_of_length_le hfits, trimEnd_of_getLast? h.ends]
    exact ⟨h, hlength, hfits⟩
  · have hcut : (name.take maxSuggestionLength).length = maxSuggestionLength := by
      rw [List.length_take]
      omega
    have hne : name.take maxSuggestionLength ≠ [] := by
      intro hnil
      rw [hnil] at hcut
      cases hcut
    obtain ⟨hsnake, hleast, hmost⟩ := isSnakeCase_trimEnd h (List.take_prefix _ _) hne
    rw [hcut] at hleast hmost
    have hmax : maxSuggestionLength = 50 := rfl
    exact ⟨hsnake, by omega, hmost⟩

end Steps

/-- Some words make a snake case name within the bounds. -/
theorem isSnakeCase_snakeCase {words : List (List Char)} (h : ∀ word ∈ words, IsWord word) :
    IsSnakeCase (snakeCase words) ∧ 3 ≤ (snakeCase words).length ∧
      (snakeCase words).length ≤ maxSuggestionLength := by
  have hnamed : IsJoined (if (words.intersperse ['_']).flatten.isEmpty then "tag".toList
      else (words.intersperse ['_']).flatten) ∧
      (if (words.intersperse ['_']).flatten.isEmpty then "tag".toList
        else (words.intersperse ['_']).flatten) ≠ [] := by
    split
    next => exact ⟨isWord_tag.isJoined, isWord_tag.nonempty⟩
    next hnonempty => exact ⟨isJoined_intersperse h, by simpa using hnonempty⟩
  obtain ⟨hfilled, hlength⟩ := isSnakeCase_filled (isSnakeCase_lettered hnamed.1 hnamed.2)
  exact isSnakeCase_cut hfilled hlength

/-- The suggested name is a snake case name within the bounds. -/
theorem isSnakeCase_suggestion (name : String) :
    IsSnakeCase (suggestion name).toList ∧ 3 ≤ (suggestion name).length ∧
      (suggestion name).length ≤ maxSuggestionLength := by
  have hwords : ∀ word ∈ words name.toList, IsWord word := fun _ => isWord_of_mem_words
  have h := isSnakeCase_snakeCase hwords
  simpa [suggestion] using h

end Naming

end TagAudit
