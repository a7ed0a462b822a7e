import TagAudit.Text.Blank

/-!
# Searching and trimming

Trimming at both ends, the substring test and cutting at separators, on texts as lists of
characters. The substring test agrees with the core library's infix relation.
-/

namespace TagAudit.Text

/-- The text without the trailing characters that satisfy `p`. -/
def trimEnd (p : Char → Bool) (s : List Char) : List Char := (s.reverse.dropWhile p).reverse

/-- The text without blank characters at either end. -/
def strip (s : List Char) : List Char := trimEnd isBlank (s.dropWhile isBlank)

/-- Does `needle` occur in the text? -/
def occursIn (needle : List Char) : List Char → Bool
  | [] => needle.isEmpty
  | c :: rest => needle.isPrefixOf (c :: rest) || occursIn needle rest

/-- The substring test decides the infix relation. -/
theorem occursIn_iff {needle s : List Char} : occursIn needle s = true ↔ needle <:+: s := by
  induction s with
  | nil => simp [occursIn]
  | cons c rest ih =>
    rw [occursIn, Bool.or_eq_true, List.isPrefixOf_iff_prefix, ih, List.infix_cons_iff]

theorem prefix_of_prefix_append_cons {part front rest : List Char} {c : Char} (hc : c ∉ part)
    (h : part <+: front ++ c :: rest) : part <+: front := by
  induction part generalizing front with
  | nil => exact List.nil_prefix
  | cons d part ih =>
    cases front with
    | nil =>
      obtain ⟨rfl, -⟩ := List.cons_prefix_cons.mp h
      exact absurd (List.mem_cons_self ..) hc
    | cons e front =>
      obtain ⟨rfl, hlater⟩ := List.cons_prefix_cons.mp h
      exact List.cons_prefix_cons.mpr ⟨rfl, ih (List.not_mem_of_not_mem_cons hc) hlater⟩

/-- A part without a character is before or after the character in a text. -/
theorem infix_of_infix_append_cons {part front rest : List Char} {c : Char} (hc : c ∉ part)
    (h : part <:+: front ++ c :: rest) : part <:+: front ∨ part <:+: rest := by
  induction front with
  | nil =>
    rcases List.infix_cons_iff.mp h with hstart | hrest
    · exact .inl (prefix_of_prefix_append_cons hc hstart).isInfix
    · exact .inr hrest
  | cons d front ih =>
    rcases List.infix_cons_iff.mp h with hstart | hlater
    · exact .inl (prefix_of_prefix_append_cons hc hstart).isInfix
    · exact (ih hlater).imp_left fun hfront => List.infix_cons_iff.mpr (.inr hfront)

/-- The pieces between the characters that satisfy `p`, of which there is always one more than
such characters. -/
def splitAt (p : Char → Bool) : List Char → List (List Char)
  | [] => [[]]
  | c :: rest =>
    if p c then [] :: splitAt p rest
    else match splitAt p rest with
      | [] => [[c]]
      | piece :: pieces => (c :: piece) :: pieces

/-- Is there nothing but blank characters? -/
def isBlankText (s : List Char) : Bool := s.all isBlank

end TagAudit.Text

namespace String

/-- Does `needle` occur in the text? -/
def hasText (s needle : String) : Bool := TagAudit.Text.occursIn needle.toList s.toList

/-- Does the text begin with `stem`? -/
def beginsWith (s stem : String) : Bool := stem.toList.isPrefixOf s.toList

/-- The text without blank characters at either end. -/
def stripped (s : String) : String := .ofList (TagAudit.Text.strip s.toList)

end String
