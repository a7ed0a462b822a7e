import TagAudit.Proofs.Naming.SnakeCase
import TagAudit.Proofs.Pattern.Language

/-!
# Names that are suggested for themselves

A snake case name is a word that begins with a letter and any number of further words, each with
an underscore before it. The words that are read in such a name are these words, and joining them
gives the name back. So a name is suggested for itself exactly if it is a snake case name within
the bounds, and since every suggestion is one, a suggestion is suggested for itself.
-/

namespace TagAudit

namespace Text

variable {p : Char → Bool} {word : List Char}

/-- A text without a character at which it is cut is a single piece. -/
theorem splitAt_eq_singleton (h : ∀ c ∈ word, p c = false) : splitAt p word = [word] := by
  induction word with
  | nil => rfl
  | cons c word ih =>
    obtain ⟨hc, hword⟩ := List.forall_mem_cons.mp h
    rw [splitAt, hc, ih hword]
    rfl

/-- The first piece ends at the first character at which a text is cut. -/
theorem splitAt_append_cons (h : ∀ c ∈ word, p c = false) {d : Char} (hd : p d = true)
    (rest : List Char) : splitAt p (word ++ d :: rest) = word :: splitAt p rest := by
  induction word with
  | nil => rw [List.nil_append, splitAt, if_pos hd]
  | cons c word ih =>
    obtain ⟨hc, hword⟩ := List.forall_mem_cons.mp h
    rw [List.cons_append, splitAt, hc, ih hword]
    rfl

end Text

namespace Naming

section Characters

variable {c : Char} (h : isWordChar c = true)

include h

theorem isUpper_of_isWordChar : c.isUpper = false := by
  refine Bool.eq_false_iff.mpr fun hupper => ?_
  have hcapitals := isUpper_iff.mp hupper
  rcases (Bool.or_eq_true ..).mp h with hlower | hdigit
  · have hletters := isLower_iff.mp hlower
    omega
  · have hdigits := isDigit_iff.mp hdigit
    omega

theorem isAlphanum_of_isWordChar : c.isAlphanum = true := by
  have hkinds : c.isAlphanum = (c.isUpper || c.isLower || c.isDigit) := rfl
  rw [hkinds, Bool.or_assoc, Bool.or_eq_true]
  exact .inr h

theorem toLower_of_isWordChar : c.toLower = c := by
  refine dif_neg fun hbounds => ?_
  have hupper := isUpper_iff.mpr hbounds
  rw [isUpper_of_isWordChar h] at hupper
  cases hupper

end Characters

section Words

/-- A word and further words, each with an underscore before it. -/
def joinedWith (first : List Char) (others : List (List Char)) : List Char :=
  first ++ others.flatMap ('_' :: ·)

theorem flatten_intersperse_cons (first : List Char) (others : List (List Char)) :
    ((first :: others).intersperse ['_']).flatten = joinedWith first others := by
  induction others generalizing first with
  | nil => rfl
  | cons next others ih =>
    rw [List.intersperse_cons_cons, List.flatten_cons, List.flatten_cons, ih]
    rfl

/-- A text with single underscores that does not end with one is made of words; only the first of
them may be missing. -/
theorem exists_eq_joinedWith {name : List Char}
    (hchars : ∀ c ∈ name, isWordChar c = true ∨ c = '_')
    (hsingle : name.IsChain fun a b => ¬ (a = '_' ∧ b = '_'))
    (hends : name.getLast? ≠ some '_') :
    ∃ first others, (∀ c ∈ first, isWordChar c = true) ∧ (∀ word ∈ others, IsWord word) ∧
      name = joinedWith first others := by
  induction name with
  | nil => exact ⟨[], [], List.forall_mem_nil _, List.forall_mem_nil _, rfl⟩
  | cons c name ih =>
    obtain ⟨hc, hlater⟩ := List.forall_mem_cons.mp hchars
    obtain ⟨hseam, hrest⟩ := List.isChain_cons.mp hsingle
    have hlast : name.getLast? ≠ some '_' := by
      intro hlast
      have hne : name ≠ [] := by
        rintro rfl
        cases hlast
      rw [List.getLast?_cons_of_ne_nil hne] at hends
      exact hends hlast
    obtain ⟨first, others, hfirst, hothers, rfl⟩ := ih hlater hrest hlast
    rcases hc with hc | rfl
    · exact ⟨c :: first, others, List.forall_mem_cons.mpr ⟨hc, hfirst⟩, hothers, rfl⟩
    · -- the word after the underscore is not missing: another underscore or the end would follow
      have hne : first ≠ [] := by
        rintro rfl
        cases others with
        | nil => exact hends rfl
        | cons next others => exact hseam '_' rfl ⟨rfl, rfl⟩
      exact ⟨[], first :: others, List.forall_mem_nil _,
        List.forall_mem_cons.mpr ⟨⟨hne, hfirst⟩, hothers⟩, rfl⟩

/-- A joined name that is not empty is made of words. -/
theorem IsJoined.exists_words {name : List Char} (h : IsJoined name) (hne : name ≠ []) :
    ∃ first others, IsWord first ∧ (∀ word ∈ others, IsWord word) ∧
      name = joinedWith first others := by
  obtain ⟨first, others, hfirst, hothers, rfl⟩ := exists_eq_joinedWith h.chars h.single h.ends
  refine ⟨first, others, ⟨?_, hfirst⟩, hothers, rfl⟩
  rintro rfl
  cases others with
  | nil => exact hne rfl
  | cons next others => exact h.starts rfl

theorem isJoined_joinedWith {first : List Char} {others : List (List Char)}
    (hfirst : IsWord first) (hothers : ∀ word ∈ others, IsWord word) :
    IsJoined (joinedWith first others) := by
  rw [← flatten_intersperse_cons]
  exact isJoined_intersperse (List.forall_mem_cons.mpr ⟨hfirst, hothers⟩)

end Words

section Form

open Pattern
open scoped Computability

/-- The snake case names: a letter with letters and digits after it, and then any number of words
of letters and digits, each with an underscore before it. -/
def snakeCaseNames : Language Char :=
  singles Char.isLower * runs isWordChar 0 * (singles (· == '_') * runs isWordChar 1)∗

theorem furtherWord_mem_iff {text : List Char} :
    text ∈ singles (· == '_') * runs isWordChar 1 ↔ ∃ word, IsWord word ∧ text = '_' :: word := by
  rw [Language.mem_mul]
  constructor
  · rintro ⟨_, ⟨c, hc, rfl⟩, word, ⟨hlength, hchars⟩, rfl⟩
    refine ⟨word, ⟨List.ne_nil_of_length_pos hlength, hchars⟩, ?_⟩
    rw [beq_iff_eq.mp hc, List.singleton_append]
  · rintro ⟨word, hword, rfl⟩
    exact ⟨['_'], ⟨'_', rfl, rfl⟩, word, ⟨List.length_pos_iff.mpr hword.nonempty, hword.chars⟩, rfl⟩

/-- The further words, each with an underscore before it. -/
theorem furtherWords_mem_iff {text : List Char} :
    text ∈ (singles (· == '_') * runs isWordChar 1)∗ ↔
      ∃ others : List (List Char), (∀ word ∈ others, IsWord word) ∧
        text = others.flatMap ('_' :: ·) := by
  rw [Language.mem_kstar]
  constructor
  · rintro ⟨pieces, rfl, hpieces⟩
    induction pieces with
    | nil => exact ⟨[], List.forall_mem_nil _, rfl⟩
    | cons piece pieces ih =>
      obtain ⟨hpiece, hlater⟩ := List.forall_mem_cons.mp hpieces
      obtain ⟨word, hword, rfl⟩ := furtherWord_mem_iff.mp hpiece
      obtain ⟨others, hothers, hflatten⟩ := ih hlater
      refine ⟨word :: others, List.forall_mem_cons.mpr ⟨hword, hothers⟩, ?_⟩
      rw [List.flatten_cons, hflatten, List.flatMap_cons]
  · rintro ⟨others, hothers, rfl⟩
    refine ⟨others.map ('_' :: ·), rfl, fun piece hpiece => ?_⟩
    obtain ⟨word, hword, rfl⟩ := List.mem_map.mp hpiece
    exact furtherWord_mem_iff.mpr ⟨word, hothers word hword, rfl⟩

theorem isWordChar_of_isLower {c : Char} (h : c.isLower = true) : isWordChar c = true :=
  (Bool.or_eq_true ..).mpr (.inl h)

/-- Names of this form are the joined names that begin with a letter. -/
theorem mem_snakeCaseNames_iff {name : List Char} : name ∈ snakeCaseNames ↔ IsSnakeCase name := by
  rw [snakeCaseNames, Language.mem_mul]
  constructor
  · rintro ⟨first, hfirst, later, hlater, rfl⟩
    obtain ⟨_, ⟨c, hc, rfl⟩, rest, ⟨-, hrest⟩, rfl⟩ := Language.mem_mul.mp hfirst
    obtain ⟨others, hothers, rfl⟩ := furtherWords_mem_iff.mp hlater
    have hword : IsWord ([c] ++ rest) :=
      ⟨List.cons_ne_nil _ _, List.forall_mem_cons.mpr ⟨isWordChar_of_isLower hc, hrest⟩⟩
    exact ⟨isJoined_joinedWith hword hothers, hc⟩
  · intro h
    obtain ⟨first, others, hfirst, hothers, rfl⟩ := h.toIsJoined.exists_words h.ne_nil
    obtain ⟨c, rest, rfl⟩ := List.exists_cons_of_ne_nil hfirst.nonempty
    obtain ⟨-, hrest⟩ := List.forall_mem_cons.mp hfirst.chars
    have hword : c :: rest ∈ singles Char.isLower * runs isWordChar 0 :=
      Language.mem_mul.mpr ⟨[c], ⟨c, h.letter, rfl⟩, rest, ⟨Nat.zero_le _, hrest⟩, rfl⟩
    exact ⟨c :: rest, hword, _, furtherWords_mem_iff.mpr ⟨others, hothers, rfl⟩, rfl⟩

end Form

section Reading

/-- Without capitals there are no humps. -/
theorem splitHumps_eq_self {name : List Char} (h : ∀ c ∈ name, c.isUpper = false) :
    splitHumps name = name := by
  fun_induction splitHumps name with
  | case1 a b rest hhump =>
    rw [h b (by simp), Bool.and_false] at hhump
    cases hhump
  | case2 a b rest _ ih => rw [ih fun c hc => h c (List.mem_cons_of_mem _ hc)]
  | case3 => rfl

theorem splitAt_joinedWith {first : List Char} {others : List (List Char)}
    (hfirst : IsWord first) (hothers : ∀ word ∈ others, IsWord word) :
    Text.splitAt (!·.isAlphanum) (joinedWith first others) = first :: others := by
  have hword {word : List Char} (h : IsWord word) : ∀ c ∈ word, (!c.isAlphanum) = false := by
    intro c hc
    rw [isAlphanum_of_isWordChar (h.chars c hc), Bool.not_true]
  induction others generalizing first with
  | nil =>
    rw [joinedWith, List.flatMap_nil, List.append_nil,
      Text.splitAt_eq_singleton (hword hfirst)]
  | cons next others ih =>
    obtain ⟨hnext, hlater⟩ := List.forall_mem_cons.mp hothers
    rw [joinedWith, List.flatMap_cons, List.cons_append,
      Text.splitAt_append_cons (hword hfirst) rfl]
    exact congrArg (first :: ·) (ih hnext hlater)

/-- The words that are read in a joined name are those of which it is made. -/
theorem words_joinedWith {first : List Char} {others : List (List Char)}
    (hfirst : IsWord first) (hothers : ∀ word ∈ others, IsWord word) :
    words (joinedWith first others) = first :: others := by
  have hall := List.forall_mem_cons.mpr ⟨hfirst, hothers⟩
  have hcapitals : ∀ c ∈ joinedWith first others, c.isUpper = false := by
    intro c hc
    rcases (isJoined_joinedWith hfirst hothers).chars c hc with hword | rfl
    · exact isUpper_of_isWordChar hword
    · rfl
  have hfilter : (first :: others).filter (!·.isEmpty) = first :: others := by
    refine List.filter_eq_self.mpr fun word hword => ?_
    simpa using (hall word hword).nonempty
  have hlower : ∀ word ∈ first :: others, word.map Char.toLower = word := by
    intro word hword
    refine (List.map_congr_left fun c hc => ?_).trans (List.map_id word)
    exact toLower_of_isWordChar ((hall word hword).chars c hc)
  rw [words, splitHumps_eq_self hcapitals, splitAt_joinedWith hfirst hothers, hfilter]
  exact (List.map_congr_left hlower).trans (List.map_id _)

/-- Nothing has to be put before a snake case name within the bounds, filled up or cut off. -/
theorem snakeCase_eq_of_isSnakeCase {words : List (List Char)} {name : List Char}
    (hjoined : (words.intersperse ['_']).flatten = name) (h : IsSnakeCase name)
    (hleast : 3 ≤ name.length) (hmost : name.length ≤ maxSuggestionLength) :
    snakeCase words = name := by
  have hnonempty : name.isEmpty = false := by
    simpa using h.ne_nil
  have hletter : name.head?.any Char.isAlpha = true := by
    obtain ⟨c, rest, rfl⟩ := List.exists_cons_of_ne_nil h.ne_nil
    have hlower : c.isLower = true := h.letter
    exact (Bool.or_eq_true ..).mpr (.inr hlower)
  have hlong : ¬ name.length < 3 := Nat.not_lt.mpr hleast
  simp only [snakeCase, hjoined, hnonempty, hletter, if_neg hlong, if_true, Bool.false_eq_true,
    if_false]
  rw [List.take_of_length_le hmost, trimEnd_of_getLast? h.ends]

end Reading

/-- A snake case name of three to fifty characters. -/
def IsNormal (name : String) : Prop :=
  name.toList ∈ snakeCaseNames ∧ 3 ≤ name.length ∧ name.length ≤ 50

theorem isNormal_suggestion (name : String) : IsNormal (suggestion name) := by
  obtain ⟨hsnake, hleast, hmost⟩ := isSnakeCase_suggestion name
  exact ⟨mem_snakeCaseNames_iff.mpr hsnake, hleast, hmost⟩

/-- A name is suggested for itself exactly if it is normal. -/
theorem suggestion_eq_self_iff {name : String} : suggestion name = name ↔ IsNormal name := by
  constructor
  · intro h
    rw [← h]
    exact isNormal_suggestion name
  · rintro ⟨hform, hleast, hmost⟩
    have h := mem_snakeCaseNames_iff.mp hform
    obtain ⟨first, others, hfirst, hothers, hname⟩ := h.toIsJoined.exists_words h.ne_nil
    have hjoined : ((words name.toList).intersperse ['_']).flatten = name.toList := by
      rw [hname, words_joinedWith hfirst hothers, flatten_intersperse_cons]
    rw [suggestion, snakeCase_eq_of_isSnakeCase hjoined h hleast hmost, String.ofList_toList]

/-- Suggesting normalizes names: every suggestion is normal and is suggested for itself, and no
name but a normal one stays as it is. -/
theorem normalizes_suggestion (name : String) :
    IsNormal (suggestion name) ∧ suggestion (suggestion name) = suggestion name ∧
      (suggestion name = name ↔ IsNormal name) := by
  have hnormal := isNormal_suggestion name
  exact ⟨hnormal, suggestion_eq_self_iff.mpr hnormal, suggestion_eq_self_iff⟩

example : suggestion "2nd pageView - (old)" = "tag_2nd_page_view_old" := by decide +kernel

end Naming

end TagAudit
