import TagAudit.Proofs.Script.Arguments
import TagAudit.Script.Block

/-!
# Script elements

Opening and closing script elements are cut out of a script before its blocks are examined. An
element begins with its name and ends with the first angle bracket after it, wherever these stand:
the cut pays no attention to strings. A text that leaves no element open is cut as a text of its
own, whatever follows it, provided that a character comes next that is in no name of an element.
-/

namespace TagAudit.Script

open Pattern

/-- The names of script elements with the angle bracket that opens them. -/
def elementNames : Language Char :=
  {"<".toList} * (({"/".toList} + 1) * (spellings Text.fold "script".toList * 1))

/-- The beginning of a script element. -/
def elementName : Pattern := .all [.word "<", .optional (.word "/"), .anyCase "script"]

/-- Does the text begin with the name of a script element? -/
def opens (s : List Char) : Bool := elementName.holdsAt (.start s)

/-- Does an element begin in the text that no angle bracket closes? -/
def leavesOpen : List Char → Bool
  | [] => false
  | c :: rest => opens (c :: rest) && !(c :: rest).contains '>' || leavesOpen rest

/-- The text after the first closing angle bracket. -/
def pastBracket (s : List Char) : List Char := (s.dropWhile (· != '>')).tail

/-- The script without its script elements. -/
def withoutElements (script : List Char) : List Char := scriptElement.replaceAll ['\n'] script

section Names

theorem accepts_elementName : elementName.Accepts elementNames :=
  (accepts_word "<").seq (((accepts_word "/").alt accepts_empty).seq
    ((accepts_anyCase "script").seq accepts_empty))

theorem opens_iff {s : List Char} : opens s = true ↔ ∃ name ∈ elementNames, name <+: s :=
  accepts_elementName.holdsAt_iff

theorem exists_of_mem_elementNames {name : List Char} (h : name ∈ elementNames) :
    ∃ slash letters, name = '<' :: (slash ++ letters) ∧ (slash = ['/'] ∨ slash = []) ∧
      letters.map Text.fold = "script".toList := by
  obtain ⟨_, rfl, _, ⟨slash, hslash, _, ⟨letters, hletters, _, rfl, rfl⟩, rfl⟩, rfl⟩ := h
  exact ⟨slash, letters, by simp, hslash, hletters⟩

/-- A name consists of the bracket, perhaps a slash, and letters. -/
theorem notMem_of_mem_elementNames {name : List Char} (h : name ∈ elementNames) {c : Char}
    (hbracket : c ≠ '<') (hslash : c ≠ '/') (hletter : Text.fold c ∉ "script".toList) :
    c ∉ name := by
  obtain ⟨slash, letters, rfl, hslashes, hletters⟩ := exists_of_mem_elementNames h
  intro hmem
  rcases List.mem_cons.mp hmem with hmem | hmem
  · exact hbracket hmem
  · rcases List.mem_append.mp hmem with hmem | hmem
    · rcases hslashes with rfl | rfl
      · exact hslash (List.mem_singleton.mp hmem)
      · cases hmem
    · rw [← hletters] at hletter
      exact hletter (List.mem_map_of_mem hmem)

theorem bracket_notMem {name : List Char} (h : name ∈ elementNames) : '>' ∉ name :=
  notMem_of_mem_elementNames h (by decide) (by decide) (by decide)

theorem quote_notMem {name : List Char} (h : name ∈ elementNames) {quote : Char}
    (hquote : isQuote quote = true) : quote ∉ name := by
  rcases isQuote_iff.mp hquote with rfl | rfl | rfl <;>
    exact notMem_of_mem_elementNames h (by decide) (by decide) (by decide)

/-- No element begins at another character than an opening angle bracket. -/
theorem opens_cons {c : Char} (h : c ≠ '<') (rest : List Char) : opens (c :: rest) = false := by
  rw [Bool.eq_false_iff]
  intro hopens
  obtain ⟨name, hname, hstarts⟩ := opens_iff.mp hopens
  obtain ⟨slash, letters, rfl, -, -⟩ := exists_of_mem_elementNames hname
  exact h (List.cons_prefix_cons.mp hstarts).1.symm

theorem leavesOpen_of_notMem {s : List Char} (h : '<' ∉ s) : leavesOpen s = false := by
  induction s with
  | nil => rfl
  | cons c s ih =>
    have hc : c ≠ '<' := fun hc => h (hc ▸ List.mem_cons_self ..)
    rw [leavesOpen, opens_cons hc, Bool.false_and, Bool.false_or]
    exact ih (List.not_mem_of_not_mem_cons h)

/-- A quotation mark ends the name of an element. -/
theorem opens_append_quote {quote : Char} (hquote : isQuote quote = true) (s t : List Char) :
    opens (s ++ quote :: t) = opens s := by
  rw [Bool.eq_iff_iff, opens_iff, opens_iff]
  constructor
  · rintro ⟨name, hname, hstarts⟩
    exact ⟨name, hname, Text.prefix_of_prefix_append_cons (quote_notMem hname hquote) hstarts⟩
  · rintro ⟨name, hname, hstarts⟩
    exact ⟨name, hname, hstarts.trans (List.prefix_append ..)⟩

end Names

section Brackets

variable {front back s : List Char}

theorem pastBracket_append (h : '>' ∉ front) : pastBracket (front ++ back) = pastBracket back := by
  have hfront : ∀ c ∈ front, (c != '>') = true :=
    fun c hc => bne_iff_ne.mpr (ne_of_mem_of_not_mem hc h)
  rw [pastBracket, List.dropWhile_append_of_pos hfront, pastBracket]

theorem pastBracket_cons (rest : List Char) : pastBracket ('>' :: rest) = rest := rfl

/-- A text with a closing bracket has one that comes first. -/
theorem exists_split_of_mem (h : '>' ∈ s) :
    ∃ front, s = front ++ '>' :: pastBracket s ∧ '>' ∉ front := by
  obtain ⟨front, back, rfl, hfront⟩ := List.eq_append_cons_of_mem h
  refine ⟨front, ?_, hfront⟩
  rw [pastBracket_append hfront, pastBracket_cons]

theorem pastBracket_append_of_mem (h : '>' ∈ s) (t : List Char) :
    pastBracket (s ++ t) = pastBracket s ++ t := by
  obtain ⟨front, hs, hfront⟩ := exists_split_of_mem h
  conv_lhs => rw [hs, List.append_assoc, pastBracket_append hfront]
  rfl

theorem length_pastBracket_lt (h : '>' ∈ s) : (pastBracket s).length < s.length := by
  obtain ⟨front, hs, -⟩ := exists_split_of_mem h
  conv_rhs => rw [hs, List.length_append, List.length_cons]
  omega

/-- What a text leaves open begins after its last closing bracket. -/
theorem leavesOpen_append_bracket (front back : List Char) :
    leavesOpen (front ++ '>' :: back) = leavesOpen back := by
  induction front with
  | nil =>
    have hopens : opens ('>' :: back) = false := opens_cons (by decide) back
    rw [List.nil_append, leavesOpen, hopens, Bool.false_and, Bool.false_or]
  | cons c front ih =>
    have hmem : (c :: (front ++ '>' :: back)).contains '>' = true := by
      rw [List.contains_iff_mem]
      simp
    rw [List.cons_append, leavesOpen, hmem, Bool.not_true, Bool.and_false, Bool.false_or, ih]

theorem leavesOpen_pastBracket (h : '>' ∈ s) : leavesOpen (pastBracket s) = leavesOpen s := by
  obtain ⟨front, hs, -⟩ := exists_split_of_mem h
  conv_rhs => rw [hs, leavesOpen_append_bracket]

end Brackets

section Cut

variable {s : List Char}

/-- An element is a name and what follows it up to the first closing angle bracket. -/
theorem accepts_scriptElement :
    scriptElement.Accepts (elementNames * (runs (· != '>') 0 * {">".toList})) := by
  have hparts := (accepts_word "<").seq (((accepts_word "/").alt accepts_empty).seq
    ((accepts_anyCase "script").seq ((accepts_run (· != '>') 0).seq
      ((accepts_word ">").seq accepts_empty))))
  have hwords : elementNames * (runs (· != '>') 0 * {">".toList}) =
      {"<".toList} * (({"/".toList} + 1) * (spellings Text.fold "script".toList *
        (runs (· != '>') 0 * ({">".toList} * 1)))) := by
    simp only [elementNames, mul_one, mul_assoc]
  rw [hwords]
  exact hparts

theorem exists_of_mem_ways_scriptElement {stop : Cursor}
    (h : stop ∈ scriptElement.ways (.start s)) :
    ∃ name ∈ elementNames, ∃ inside, s = name ++ (inside ++ '>' :: stop.rest) ∧ '>' ∉ inside := by
  obtain ⟨_, ⟨name, hname, _, ⟨inside, ⟨-, hinside⟩, _, rfl, rfl⟩, rfl⟩, hs, -, -⟩ :=
    (accepts_scriptElement (.start s) stop).mp h
  refine ⟨name, hname, inside, ?_, fun hmem => ?_⟩
  · simpa [Cursor.start] using hs
  · exact absurd (hinside _ hmem) (by decide)

theorem holdsAt_scriptElement (h : opens s = true) (hclosed : '>' ∈ s) :
    scriptElement.holdsAt (.start s) = true := by
  obtain ⟨name, hname, later, rfl⟩ := opens_iff.mp h
  have hlater : '>' ∈ later :=
    (List.mem_append.mp hclosed).resolve_left (bracket_notMem hname)
  obtain ⟨inside, hinside, hmem⟩ := exists_split_of_mem hlater
  refine accepts_scriptElement.holdsAt_iff.mpr ⟨name ++ (inside ++ ['>']), ?_, ?_⟩
  · refine Language.append_mem_mul hname (Language.append_mem_mul ⟨Nat.zero_le _, ?_⟩ rfl)
    exact fun c hc => bne_iff_ne.mpr (ne_of_mem_of_not_mem hc hmem)
  · refine ⟨pastBracket later, ?_⟩
    conv_rhs => rw [Cursor.start, hinside]
    simp

theorem leastLength_scriptElement_pos : 0 < scriptElement.leastLength := by decide

theorem ignores_scriptElement (c : Char) : scriptElement.ignores c = true := rfl

/-- An element is cut out as a whole. -/
theorem withoutElements_of_opens (h : opens s = true) (hclosed : '>' ∈ s) :
    withoutElements s = '\n' :: withoutElements (pastBracket s) := by
  obtain ⟨stop, hstop⟩ := Option.isSome_iff_exists.mp (holdsAt_scriptElement h hclosed)
  obtain ⟨name, hname, inside, hs, hinside⟩ :=
    exists_of_mem_ways_scriptElement (mem_ways_of_endAt? hstop)
  have hpast : pastBracket s = stop.rest := by
    rw [hs, pastBracket_append (bracket_notMem hname), pastBracket_append hinside, pastBracket_cons]
  rw [withoutElements, replaceAll_of_endAt? leastLength_scriptElement_pos ignores_scriptElement
    hstop, hpast]
  rfl

/-- A character at which no closed element begins stays. -/
theorem withoutElements_cons {c : Char} (h : opens (c :: s) = true → '>' ∉ c :: s) :
    withoutElements (c :: s) = c :: withoutElements s := by
  refine replaceAll_cons leastLength_scriptElement_pos ignores_scriptElement ?_
  rw [← Option.not_isSome_iff_eq_none]
  intro hholds
  obtain ⟨stop, hstop⟩ := Option.isSome_iff_exists.mp hholds
  obtain ⟨name, hname, inside, hs, -⟩ :=
    exists_of_mem_ways_scriptElement (mem_ways_of_endAt? hstop)
  refine h (opens_iff.mpr ⟨name, hname, _, hs.symm⟩) ?_
  rw [hs]
  simp

theorem withoutElements_nil : withoutElements [] = [] :=
  replaceAll_nil leastLength_scriptElement_pos

/-- Without angle brackets that open, or without any that close, there are no elements. -/
theorem withoutElements_eq_self (h : '<' ∉ s ∨ '>' ∉ s) : withoutElements s = s := by
  induction s with
  | nil => exact withoutElements_nil
  | cons c s ih =>
    have hstays : opens (c :: s) = true → '>' ∉ c :: s := by
      intro hopens
      rcases h with hopening | hclosing
      · have hc : c ≠ '<' := fun hc => hopening (hc ▸ List.mem_cons_self ..)
        rw [opens_cons hc] at hopens
        cases hopens
      · exact hclosing
    have hlater : '<' ∉ s ∨ '>' ∉ s :=
      h.imp List.not_mem_of_not_mem_cons List.not_mem_of_not_mem_cons
    rw [withoutElements_cons hstays, ih hlater]

/-- A text that leaves no element open is cut as a text of its own. -/
theorem withoutElements_append_quote {quote : Char} (hquote : isQuote quote = true)
    (h : leavesOpen s = false) (t : List Char) :
    withoutElements (s ++ quote :: t) = withoutElements s ++ quote :: withoutElements t := by
  induction hlength : s.length using Nat.strongRecOn generalizing s with
  | ind length ih =>
    subst hlength
    cases s with
    | nil =>
      have hbracket : quote ≠ '<' := by
        rintro rfl
        exact absurd hquote (by decide)
      have hstays : opens (quote :: t) = true → '>' ∉ quote :: t := by
        rw [opens_cons hbracket]
        exact fun h => by cases h
      rw [List.nil_append, withoutElements_cons hstays, withoutElements_nil, List.nil_append]
    | cons c s =>
      have hsame : opens (c :: s ++ quote :: t) = opens (c :: s) := opens_append_quote hquote _ t
      by_cases hopens : opens (c :: s) = true
      · have hclosed : '>' ∈ c :: s := by
          rw [leavesOpen, hopens, Bool.true_and, Bool.or_eq_false_iff, Bool.not_eq_false'] at h
          exact List.contains_iff_mem.mp h.1
        have hlater : leavesOpen (pastBracket (c :: s)) = false := by
          rw [leavesOpen_pastBracket hclosed, h]
        rw [withoutElements_of_opens (hsame.trans hopens) (List.mem_append_left _ hclosed),
          withoutElements_of_opens hopens hclosed, pastBracket_append_of_mem hclosed,
          ih _ (length_pastBracket_lt hclosed) hlater rfl, List.cons_append]
      · have hlater : leavesOpen s = false := by
          rw [leavesOpen, Bool.or_eq_false_iff] at h
          exact h.2
        have hstays : opens (c :: (s ++ quote :: t)) = true → '>' ∉ c :: (s ++ quote :: t) :=
          fun hopens' => absurd (hsame.symm.trans hopens') hopens
        rw [List.cons_append, withoutElements_cons hstays,
          withoutElements_cons fun hopens' => absurd hopens' hopens,
          ih s.length (Nat.lt_succ_self _) hlater rfl, List.cons_append]

end Cut

end TagAudit.Script
