import TagAudit.Proofs.Pattern.Search
import TagAudit.Script.Block

/-!
# Long blocks of a script

The body of a function goes from its opening brace up to the brace that matches it, or up to the end
of the code where no brace does. The rule for long blocks counts braces and finds the bodies that
are closed. A body that is never closed it reads without its last character, which matters where
that character is a statement of its own, or the brace of the only guard.
-/

namespace TagAudit.Script

open Pattern

section Braces

/-- A text in which every brace has its counterpart. -/
inductive Braced : List Char → Prop
  | nil : Braced []
  | plain {c : Char} {rest : List Char} (hopening : c ≠ '\x7b') (hclosing : c ≠ '\x7d')
      (later : Braced rest) : Braced (c :: rest)
  | block {inner rest : List Char} (inside : Braced inner) (later : Braced rest) :
      Braced ('\x7b' :: (inner ++ '\x7d' :: rest))

theorem Braced.append {s t : List Char} (hs : Braced s) (ht : Braced t) : Braced (s ++ t) := by
  induction hs with
  | nil => exact ht
  | plain hopening hclosing _ ih => exact .plain hopening hclosing ih
  | @block inner rest inside _ _ ih =>
    rw [List.cons_append, List.append_assoc, List.cons_append]
    exact .block inside ih

/-- A text that leaves so many blocks: their closing braces, with texts of matching braces between
them. -/
inductive LeavesBlocks : (depth : Nat) → List Char → Prop
  | last {s : List Char} (h : Braced s) : LeavesBlocks 0 s
  | outer {depth : Nat} {s t : List Char} (h : Braced s) (later : LeavesBlocks depth t) :
      LeavesBlocks (depth + 1) (s ++ '\x7d' :: t)

theorem LeavesBlocks.append {depth : Nat} {s t : List Char} (hs : Braced s)
    (ht : LeavesBlocks depth t) : LeavesBlocks depth (s ++ t) := by
  cases ht with
  | last h => exact .last (hs.append h)
  | outer h later =>
    rw [← List.append_assoc]
    exact .outer (hs.append h) later

theorem LeavesBlocks.outermost {depth : Nat} {s : List Char} (h : LeavesBlocks (depth + 1) s) :
    ∃ inner later, s = inner ++ '\x7d' :: later ∧ Braced inner ∧ LeavesBlocks depth later := by
  cases h with
  | outer hinner hlater => exact ⟨_, _, rfl, hinner, hlater⟩

section Reader

variable {depth : Nat} {body rest : List Char}

theorem upToClosing_opening :
    upToClosing depth ('\x7b' :: rest) =
      ('\x7b' :: (upToClosing (depth + 1) rest).1, (upToClosing (depth + 1) rest).2) := rfl

theorem upToClosing_last : upToClosing 1 ('\x7d' :: rest) = ([], true) := rfl

theorem upToClosing_closing :
    upToClosing (depth + 2) ('\x7d' :: rest) =
      ('\x7d' :: (upToClosing (depth + 1) rest).1, (upToClosing (depth + 1) rest).2) := rfl

theorem upToClosing_plain {c : Char} (hopening : c ≠ '\x7b') (hclosing : c ≠ '\x7d') :
    upToClosing depth (c :: rest) =
      (c :: (upToClosing depth rest).1, (upToClosing depth rest).2) := by
  simp only [upToClosing, hopening, hclosing, false_and, if_false]

/-- The reader comes out of a text with matching braces as deep as it went in. -/
theorem upToClosing_append (h : Braced body) (depth : Nat) (rest : List Char) :
    upToClosing (depth + 1) (body ++ rest) =
      (body ++ (upToClosing (depth + 1) rest).1, (upToClosing (depth + 1) rest).2) := by
  induction h generalizing depth rest with
  | nil => rfl
  | plain hopening hclosing _ ih =>
    rw [List.cons_append, upToClosing_plain hopening hclosing, ih]
    rfl
  | @block inner later _ _ ihinner ihlater =>
    rw [List.cons_append, upToClosing_opening, List.append_assoc, ihinner, List.cons_append,
      upToClosing_closing, ihlater]
    simp

/-- What the reader has read when it stops at a closing brace leaves all blocks but the last. -/
theorem leavesBlocks_of_upToClosing (h : upToClosing (depth + 1) rest = (body, true)) :
    LeavesBlocks depth body ∧ ∃ left, rest = body ++ '\x7d' :: left := by
  induction rest generalizing depth body with
  | nil => cases h
  | cons c rest ih =>
    by_cases hopening : c = '\x7b'
    -- The new block is left before all others, so it is a block of the text.
    · subst hopening
      rw [upToClosing_opening] at h
      obtain ⟨rfl, hclosed⟩ := Prod.mk.inj h
      obtain ⟨hleaves, left, hrest⟩ := ih (Prod.ext rfl hclosed)
      refine ⟨?_, left, congrArg (List.cons '\x7b') hrest⟩
      obtain ⟨inner, later, hread, hinner, hlater⟩ := hleaves.outermost
      have hblock : Braced ('\x7b' :: (inner ++ ['\x7d'])) := .block hinner .nil
      simpa [hread] using LeavesBlocks.append hblock hlater
    · by_cases hclosing : c = '\x7d'
      · subst hclosing
        cases depth with
        | zero =>
          obtain ⟨rfl, -⟩ := Prod.mk.inj h
          exact ⟨.last .nil, rest, rfl⟩
        | succ depth =>
          rw [upToClosing_closing] at h
          obtain ⟨rfl, hclosed⟩ := Prod.mk.inj h
          obtain ⟨hleaves, left, hrest⟩ := ih (Prod.ext rfl hclosed)
          exact ⟨.outer .nil hleaves, left, congrArg (List.cons '\x7d') hrest⟩
      · rw [upToClosing_plain hopening hclosing] at h
        obtain ⟨rfl, hclosed⟩ := Prod.mk.inj h
        obtain ⟨hleaves, left, hrest⟩ := ih (Prod.ext rfl hclosed)
        exact ⟨LeavesBlocks.append (.plain hopening hclosing .nil) hleaves, left,
          congrArg (List.cons c) hrest⟩

end Reader

variable {afterOpening body : List Char}

/-- The body that a matching brace closes. -/
def IsClosedBody (afterOpening body : List Char) : Prop :=
  Braced body ∧ ∃ left, afterOpening = body ++ '\x7d' :: left

/-- No brace closes the body. -/
def NeverCloses (afterOpening : List Char) : Prop := ∀ body, ¬ IsClosedBody afterOpening body

theorem isClosedBody_iff :
    IsClosedBody afterOpening body ↔ upToClosing 1 afterOpening = (body, true) := by
  constructor
  · rintro ⟨hbody, left, rfl⟩
    rw [upToClosing_append hbody 0, upToClosing_last, List.append_nil]
  · intro h
    obtain ⟨hleaves, hleft⟩ := leavesBlocks_of_upToClosing h
    cases hleaves with
    | last hbody => exact ⟨hbody, hleft⟩

/-- A closed body is read as it is. -/
theorem functionBody_of_closed (h : IsClosedBody afterOpening body) :
    functionBody afterOpening = body := by
  rw [functionBody, isClosedBody_iff.mp h]
  rfl

theorem upToClosing_of_open {depth : Nat} {s : List Char} (h : (upToClosing depth s).2 = false) :
    (upToClosing depth s).1 = s := by
  induction s generalizing depth with
  | nil => rfl
  | cons c rest ih =>
    rw [upToClosing] at h ⊢
    split at h
    · cases h
    next hstop =>
      rw [if_neg hstop]
      exact congrArg (List.cons c) (ih h)

/-- A body that no brace closes is read without its last character. -/
theorem functionBody_of_open (h : NeverCloses afterOpening) :
    functionBody afterOpening = afterOpening.dropLast := by
  have hopen : (upToClosing 1 afterOpening).2 = false := by
    by_contra hclosed
    rw [Bool.not_eq_false] at hclosed
    exact h _ (isClosedBody_iff.mpr (Prod.ext rfl hclosed))
  rw [functionBody]
  simp only [hopen, upToClosing_of_open hopen]
  rfl

end Braces

section Statements

theorem isBlankText_of_starts {s t : List Char} (h : s <+: t) (ht : Text.isBlankText t = true) :
    Text.isBlankText s = true :=
  List.all_eq_true.mpr fun c hc => List.all_eq_true.mp ht c (h.subset hc)

/-- The number of pieces that are not blank. -/
def written (pieces : List (List Char)) : Nat := pieces.countP (!Text.isBlankText ·)

theorem written_cons_le {piece longer : List Char} {pieces others : List (List Char)}
    (hlonger : piece <+: longer) (hcount : written pieces ≤ written others) :
    written (piece :: pieces) ≤ written (longer :: others) := by
  have hfirst : (!Text.isBlankText piece) = true → (!Text.isBlankText longer) = true := by
    intro hpiece
    rw [Bool.not_eq_true', Bool.eq_false_iff] at hpiece ⊢
    intro hblank
    exact hpiece (isBlankText_of_starts hlonger hblank)
  simp only [written, List.countP_cons] at hcount ⊢
  split
  next hpiece =>
    rw [if_pos (hfirst hpiece)]
    omega
  next => omega

theorem exists_splitAt_eq_cons (s : List Char) :
    ∃ piece pieces, Text.splitAt endsStatement s = piece :: pieces := by
  cases s with
  | nil => exact ⟨_, _, rfl⟩
  | cons c s =>
    rw [Text.splitAt]
    split
    · exact ⟨_, _, rfl⟩
    · split <;> exact ⟨_, _, rfl⟩

/-- The pieces of a text when it goes on: the first may become longer, and the others that are not
blank do not become fewer. -/
theorem splitAt_append (s t : List Char) : ∃ piece pieces longer others,
    Text.splitAt endsStatement s = piece :: pieces ∧
      Text.splitAt endsStatement (s ++ t) = longer :: others ∧ piece <+: longer ∧
      written pieces ≤ written others := by
  induction s with
  | nil =>
    obtain ⟨longer, others, hsplit⟩ := exists_splitAt_eq_cons t
    exact ⟨[], [], longer, others, rfl, hsplit, List.nil_prefix, Nat.zero_le _⟩
  | cons c s ih =>
    obtain ⟨piece, pieces, longer, others, hs, ht, hlonger, hcount⟩ := ih
    by_cases hc : endsStatement c = true
    · refine ⟨[], piece :: pieces, [], longer :: others, ?_, ?_, List.nil_prefix, ?_⟩
      · rw [Text.splitAt, if_pos hc, hs]
      · rw [List.cons_append, Text.splitAt, if_pos hc, ht]
      · exact written_cons_le hlonger hcount
    · refine ⟨c :: piece, pieces, c :: longer, others, ?_, ?_, ?_, hcount⟩
      · rw [Text.splitAt, if_neg hc, hs]
      · rw [List.cons_append, Text.splitAt, if_neg hc, ht]
      · exact List.cons_prefix_cons.mpr ⟨rfl, hlonger⟩

theorem statementCount_le_append (s t : List Char) :
    statementCount s ≤ statementCount (s ++ t) := by
  obtain ⟨piece, pieces, longer, others, hs, ht, hlonger, hcount⟩ := splitAt_append s t
  rw [statementCount, statementCount, hs, ht]
  exact written_cons_le hlonger hcount

theorem statementCount_dropLast_le (s : List Char) :
    statementCount s.dropLast ≤ statementCount s := by
  obtain ⟨left, hs⟩ := List.dropLast_prefix s
  conv_rhs => rw [← hs]
  exact statementCount_le_append s.dropLast left

end Statements

section Guards

/-- The block has a guard: the word `try` with an opening brace after it. -/
def Guarded (block : List Char) : Prop :=
  ∃ before blanks after, block = before ++ ("try".toList ++ (blanks ++ '\x7b' :: after)) ∧
    Text.isBlankText blanks = true ∧ before.getLast?.any Text.isWord = false

/-- The beginning of a guarded block without the test for a word. -/
theorem holdsAt_guard_iff {place : Cursor} :
    (all [word "try", blanks, word "\x7b"]).holdsAt place = true ↔
      ∃ blanks after, place.rest = "try".toList ++ (blanks ++ '\x7b' :: after) ∧
        Text.isBlankText blanks = true := by
  have hwords : (all [word "try", blanks, word "\x7b"]).Accepts
      ({"try".toList} * (runs Text.isBlank 0 * ({"\x7b".toList} * 1))) :=
    (accepts_word _).seq ((accepts_run _ _).seq ((accepts_word _).seq accepts_empty))
  rw [hwords.holdsAt_iff]
  constructor
  · rintro ⟨taken, htaken, after, h⟩
    obtain ⟨_, rfl, _, ⟨blanks, ⟨-, hblanks⟩, _, ⟨_, rfl, _, rfl, rfl⟩, rfl⟩, rfl⟩ := htaken
    refine ⟨blanks, after, ?_, List.all_eq_true.mpr hblanks⟩
    rw [← h]
    simp
  · rintro ⟨blanks, after, h, hblanks⟩
    refine ⟨"try".toList ++ (blanks ++ ("\x7b".toList ++ [])), ?_, after, ?_⟩
    · exact Language.append_mem_mul rfl (Language.append_mem_mul
        ⟨Nat.zero_le _, List.all_eq_true.mp hblanks⟩ (Language.append_mem_mul rfl rfl))
    · rw [h]
      simp

theorem holdsAt_tryBlock_iff {before rest : List Char} :
    tryBlock.holdsAt ⟨before, rest, []⟩ = true ↔ before.head?.any Text.isWord = false ∧
      ∃ blanks after, rest = "try".toList ++ (blanks ++ '\x7b' :: after) ∧
        Text.isBlankText blanks = true := by
  have hsplit : tryBlock.holdsAt ⟨before, rest, []⟩ = true ↔ _ := holdsAt_wordEdge_seq
  rw [hsplit]
  refine (and_congr_right fun _ => holdsAt_guard_iff).trans (and_congr_left ?_)
  rintro ⟨blanks, after, hrest, -⟩
  have hnext : Cursor.nextIs Text.isWord ⟨before, rest, []⟩ = true := by
    obtain rfl : rest = _ := hrest
    rfl
  rw [hnext, Ne, Bool.not_eq_true]
  rfl

/-- The rule finds the guards. -/
theorem occursIn_tryBlock_iff {block : List Char} :
    tryBlock.occursIn block = true ↔ Guarded block := by
  rw [occursIn_iff]
  simp only [holdsAt_tryBlock_iff, List.head?_reverse]
  constructor
  · rintro ⟨before, rest, rfl, hbefore, blanks, after, rfl, hblanks⟩
    exact ⟨before, blanks, after, rfl, hblanks, hbefore⟩
  · rintro ⟨before, blanks, after, rfl, hblanks, hbefore⟩
    exact ⟨before, _, rfl, hbefore, blanks, after, rfl, hblanks⟩

instance (block : List Char) : Decidable (Guarded block) :=
  decidable_of_iff _ occursIn_tryBlock_iff

theorem Guarded.append {s : List Char} (h : Guarded s) (t : List Char) : Guarded (s ++ t) := by
  obtain ⟨before, blanks, after, rfl, hblanks, hbefore⟩ := h
  refine ⟨before, blanks, after ++ t, ?_, hblanks, hbefore⟩
  simp only [List.append_assoc, List.cons_append]

theorem guarded_of_dropLast {s : List Char} (h : Guarded s.dropLast) : Guarded s := by
  obtain ⟨left, hs⟩ := List.dropLast_prefix s
  rw [← hs]
  exact h.append left

/-- A brace ends the word before it. -/
theorem any_isWord_getLast?_append_brace (front block : List Char) :
    (front ++ '\x7b' :: block).getLast?.any Text.isWord = block.getLast?.any Text.isWord := by
  have hbrace : Text.isWord '\x7b' = false := by decide
  rw [List.getLast?_append, List.getLast?_cons]
  cases block.getLast? with
  | none => exact hbrace
  | some c => rfl

/-- A guard stands after a brace of the block, or ends with the brace or before it. -/
theorem guarded_append_brace_iff {front rest : List Char} :
    Guarded (front ++ '\x7b' :: rest) ↔ Guarded (front ++ ['\x7b']) ∨ Guarded rest := by
  constructor
  · rintro ⟨before, blanks, after, hsplit, hblanks, hbefore⟩
    rcases List.append_eq_append_iff.mp hsplit with ⟨middle, rfl, hlater⟩ | ⟨middle, rfl, hlater⟩
    · refine .inr ?_
      obtain ⟨middle, rfl⟩ : ∃ later, middle = '\x7b' :: later := by
        cases middle with
        | nil => exact absurd (List.cons.inj hlater).1 (by decide)
        | cons c middle => exact ⟨middle, by rw [(List.cons.inj hlater).1]⟩
      rw [any_isWord_getLast?_append_brace] at hbefore
      exact ⟨middle, blanks, after, (List.cons.inj hlater).2, hblanks, hbefore⟩
    -- The word and the blanks after it have no brace, so the guard cannot reach over this one.
    · refine .inl ?_
      rw [← List.append_assoc] at hlater
      have hletters : '\x7b' ∉ "try".toList ++ blanks := by
        intro hmem
        rcases List.mem_append.mp hmem with hmem | hmem
        · exact absurd hmem (by decide)
        · exact absurd (List.all_eq_true.mp hblanks _ hmem) (by decide)
      obtain ⟨later, hguard⟩ : ∃ later,
          middle ++ ['\x7b'] = "try".toList ++ blanks ++ '\x7b' :: later := by
        rcases List.append_eq_append_iff.mp hlater with ⟨left, rfl, hleft⟩ | ⟨left, hcut, hleft⟩
        · cases left with
          | nil => exact ⟨[], by rw [List.append_nil]⟩
          | cons c left =>
            obtain ⟨rfl, -⟩ := List.cons.inj hleft
            exact ⟨left ++ ['\x7b'], by rw [List.append_assoc, List.cons_append]⟩
        · cases left with
          | nil => exact ⟨[], by rw [hcut, List.append_nil]⟩
          | cons c left =>
            obtain ⟨rfl, -⟩ := List.cons.inj hleft
            rw [hcut] at hletters
            exact absurd (List.mem_append_right _ (List.mem_cons_self ..)) hletters
      refine ⟨before, blanks, later, ?_, hblanks, hbefore⟩
      rw [List.append_assoc, hguard, List.append_assoc]
  · rintro (h | ⟨before, blanks, after, rfl, hblanks, hbefore⟩)
    · have hwhole := h.append rest
      rwa [List.append_assoc, List.singleton_append] at hwhole
    · refine ⟨front ++ '\x7b' :: before, blanks, after, ?_, hblanks, ?_⟩
      · rw [List.append_assoc, List.cons_append]
      · rwa [any_isWord_getLast?_append_brace]

end Guards

section Headers

variable {code : List Char} {finding : Pattern.Finding}

/-- The header of a function ends with an opening brace. -/
theorem before_of_mem_ways_functionHeader {place stop : Cursor}
    (h : stop ∈ functionHeader.ways place) : ∃ front, stop.before = '\x7b' :: front := by
  have hlast : ∀ patterns : List Pattern, stop ∈ (all (patterns ++ [word "\x7b"])).ways place →
      ∃ front, stop.before = '\x7b' :: front := by
    intro patterns h
    rw [ways_all_append] at h
    obtain ⟨middle, -, h⟩ := List.mem_flatMap.mp h
    obtain ⟨brace, hbrace, h⟩ := List.mem_flatMap.mp h
    obtain rfl := List.mem_singleton.mp h
    obtain ⟨_, rfl, -, hbefore, -⟩ := (accepts_word "\x7b" middle stop).mp hbrace
    exact ⟨middle.before, hbefore⟩
  rcases List.mem_append.mp h with h | h
  · exact hlast [wordEdge, word "function", wordEdge, run (fun c => c != '\x7b' && c != ';') 0] h
  · exact hlast [word "=>", blanks] h

/-- The text after the header of a function comes after an opening brace of the code. -/
theorem eq_append_brace_of_mem_findAll (h : finding ∈ functionHeader.findAll code) :
    ∃ front, code = front ++ '\x7b' :: finding.stop.rest := by
  obtain ⟨hstart, hstop⟩ := exists_of_mem_findAllFrom h
  have hways := mem_ways_of_endAt? hstop
  obtain ⟨taken, hcode, htaken, -⟩ := hstart.trans (reaches_of_mem_ways hways)
  obtain ⟨front, hbrace⟩ := before_of_mem_ways_functionHeader hways
  rw [hbrace, List.append_nil] at htaken
  refine ⟨front.reverse, hcode.trans ?_⟩
  rw [← List.reverse_reverse taken, ← htaken, List.reverse_cons, List.append_assoc]
  rfl

/-- Of two texts that come after opening braces of the code one goes on to the other. -/
theorem within_of_append_brace {front front' s t : List Char}
    (h : front ++ '\x7b' :: s = front' ++ '\x7b' :: t) :
    s = t ∨ (∃ middle, s = middle ++ '\x7b' :: t) ∨ ∃ middle, t = middle ++ '\x7b' :: s := by
  rcases List.append_eq_append_iff.mp h with ⟨middle, -, hmiddle⟩ | ⟨middle, -, hmiddle⟩
  · cases middle with
    | nil => exact .inl (List.cons.inj hmiddle).2
    | cons c middle => exact .inr (.inl ⟨middle, (List.cons.inj hmiddle).2⟩)
  · cases middle with
    | nil => exact .inl (List.cons.inj hmiddle).2.symm
    | cons c middle => exact .inr (.inr ⟨middle, (List.cons.inj hmiddle).2⟩)

end Headers

section Blocks

variable (limit : Nat) (code : List Char)

/-- The body of a function: up to the brace that closes it, or else to the end of the code. -/
def IsBody (afterOpening body : List Char) : Prop :=
  IsClosedBody afterOpening body ∨ NeverCloses afterOpening ∧ body = afterOpening

/-- A block has more statements than the limit and no guard. -/
def LongUnguarded (block : List Char) : Prop :=
  limit < statementCount block ∧ ¬ Guarded block

/-- The rule sees whole blocks: it reports a script exactly if its code or the body of a function
in it is long and has no guard. -/
def SeesWholeBlocks (script : List Char) : Prop :=
  hasLongUnguardedBlock limit script = true ↔
    LongUnguarded limit (cleaned script) ∨
      ∃ finding ∈ functionHeader.findAll (cleaned script), ∃ body,
        IsBody finding.stop.rest body ∧ LongUnguarded limit body

/-- A block that is read to its end: the code, or a function body that is closed. -/
def IsReadWhole (block : List Char) : Prop :=
  block = code ∨ ∃ finding ∈ functionHeader.findAll code, IsClosedBody finding.stop.rest block

/-- A function body that is never closed. -/
def IsOpenBody (body : List Char) : Prop :=
  ∃ finding ∈ functionHeader.findAll code, finding.stop.rest = body ∧ NeverCloses body

/-- The code has a long open body without a guard, and no such body is long without the last
character of the code. -/
def EndsWithShortStatement : Prop :=
  (∃ body, IsOpenBody code body ∧ LongUnguarded limit body) ∧
    ∀ body, IsOpenBody code body → ¬ Guarded body → statementCount body.dropLast ≤ limit

/-- The code has an open body that has a guard, but without the last character of the code is long
and has none. -/
def EndsWithGuard : Prop :=
  ∃ body, IsOpenBody code body ∧ Guarded body ∧ LongUnguarded limit body.dropLast

variable {limit code}

theorem isLongUnguarded_iff {block : List Char} :
    isLongUnguarded limit block = true ↔ LongUnguarded limit block := by
  rw [isLongUnguarded, Bool.and_eq_true, decide_eq_true_iff, Bool.not_eq_true',
    Bool.eq_false_iff, Ne, occursIn_tryBlock_iff, LongUnguarded]

/-- The blocks of a code are those that are read to their end and the open bodies. -/
theorem exists_block_iff {P Q : List Char → Prop} :
    (P code ∨ ∃ finding ∈ functionHeader.findAll code,
        (∃ body, IsClosedBody finding.stop.rest body ∧ P body) ∨
          NeverCloses finding.stop.rest ∧ Q finding.stop.rest) ↔
      (∃ block, IsReadWhole code block ∧ P block) ∨ ∃ body, IsOpenBody code body ∧ Q body := by
  constructor
  · rintro (hcode | ⟨finding, hfinding, ⟨body, hbody, hP⟩ | ⟨hopen, hQ⟩⟩)
    · exact .inl ⟨code, .inl rfl, hcode⟩
    · exact .inl ⟨body, .inr ⟨finding, hfinding, hbody⟩, hP⟩
    · exact .inr ⟨_, ⟨finding, hfinding, rfl, hopen⟩, hQ⟩
  · rintro (⟨block, hblock, hP⟩ | ⟨_, ⟨finding, hfinding, rfl, hopen⟩, hQ⟩)
    · rcases hblock with rfl | ⟨finding, hfinding, hbody⟩
      · exact .inl hP
      · exact .inr ⟨finding, hfinding, .inl ⟨block, hbody, hP⟩⟩
    · exact .inr ⟨finding, hfinding, .inr ⟨hopen, hQ⟩⟩

/-- An open body is read without its last character. -/
theorem longUnguarded_functionBody_iff {after : List Char} :
    LongUnguarded limit (functionBody after) ↔
      (∃ body, IsClosedBody after body ∧ LongUnguarded limit body) ∨
        NeverCloses after ∧ LongUnguarded limit after.dropLast := by
  by_cases hopen : NeverCloses after
  · rw [functionBody_of_open hopen]
    constructor
    · exact fun h => .inr ⟨hopen, h⟩
    · rintro (⟨body, hbody, -⟩ | ⟨-, h⟩)
      · exact absurd hbody (hopen body)
      · exact h
  · constructor
    · intro h
      obtain ⟨body, hbody⟩ := Classical.not_forall_not.mp hopen
      rw [functionBody_of_closed hbody] at h
      exact .inl ⟨body, hbody, h⟩
    · rintro (⟨body, hbody, h⟩ | ⟨hnever, -⟩)
      · rwa [functionBody_of_closed hbody]
      · exact absurd hnever hopen

theorem hasLongUnguardedBlock_iff {script : List Char} :
    hasLongUnguardedBlock limit script = true ↔
      (∃ block, IsReadWhole (cleaned script) block ∧ LongUnguarded limit block) ∨
        ∃ body, IsOpenBody (cleaned script) body ∧ LongUnguarded limit body.dropLast := by
  have hany : hasLongUnguardedBlock limit script = true ↔
      LongUnguarded limit (cleaned script) ∨
        ∃ finding ∈ functionHeader.findAll (cleaned script),
          LongUnguarded limit (functionBody finding.stop.rest) := by
    simp only [hasLongUnguardedBlock, functionBodies, List.any_cons, List.any_map, Bool.or_eq_true,
      List.any_eq_true, Function.comp_apply, isLongUnguarded_iff]
  rw [hany, ← exists_block_iff]
  simp only [longUnguarded_functionBody_iff]

/-- Two open bodies both reach to the end of the code. If one is guarded by its last brace only, no
other is long and unguarded. -/
theorem not_longUnguarded_of_endsWithGuard (h : EndsWithGuard limit code) {body : List Char}
    (hbody : IsOpenBody code body) : ¬ LongUnguarded limit body := by
  rintro ⟨hlong, hunguarded⟩
  obtain ⟨guarded, ⟨finding, hfinding, rfl, -⟩, hguarded, -, hcut⟩ := h
  obtain ⟨other, hother, rfl, -⟩ := hbody
  obtain ⟨front, hcode⟩ := eq_append_brace_of_mem_findAll hfinding
  obtain ⟨otherFront, hotherCode⟩ := eq_append_brace_of_mem_findAll hother
  rcases within_of_append_brace (hcode.symm.trans hotherCode) with
    hsame | ⟨middle, hafter⟩ | ⟨middle, hbefore⟩
  · rw [hsame] at hguarded
    exact hunguarded hguarded
  · rw [hafter, guarded_append_brace_iff] at hguarded
    rcases hguarded with hguarded | hguarded
    · have hne : other.stop.rest ≠ [] := by
        intro hempty
        rw [hempty] at hlong
        exact absurd hlong (Nat.not_lt_zero limit)
      rw [hafter, List.dropLast_append_cons, List.dropLast_cons_of_ne_nil hne] at hcut
      exact hcut (guarded_append_brace_iff.mpr (.inl hguarded))
    · exact hunguarded hguarded
  · rw [hbefore] at hunguarded
    exact hunguarded (guarded_append_brace_iff.mpr (.inr hguarded))

/-- The last character of the code makes no difference to the open bodies exactly if it is neither
a statement that counts nor the brace of a guard. -/
theorem exists_open_dropLast_iff :
    ((∃ body, IsOpenBody code body ∧ LongUnguarded limit body.dropLast) ↔
      ∃ body, IsOpenBody code body ∧ LongUnguarded limit body) ↔
        ¬ EndsWithShortStatement limit code ∧ ¬ EndsWithGuard limit code := by
  constructor
  · intro hsame
    constructor
    · rintro ⟨hlong, hshort⟩
      obtain ⟨body, hbody, hcount, hunguarded⟩ := hsame.mpr hlong
      by_cases hguard : Guarded body
      · obtain ⟨other, hother, hlong⟩ := hlong
        have hends : EndsWithGuard limit code := ⟨body, hbody, hguard, hcount, hunguarded⟩
        exact not_longUnguarded_of_endsWithGuard hends hother hlong
      · exact absurd (hshort body hbody hguard) (Nat.not_le.mpr hcount)
    · intro hends
      obtain ⟨body, hbody, -, hcut⟩ := id hends
      obtain ⟨other, hother, hlong⟩ := hsame.mp ⟨body, hbody, hcut⟩
      exact not_longUnguarded_of_endsWithGuard hends hother hlong
  · rintro ⟨hshort, hends⟩
    constructor
    · rintro ⟨body, hbody, hcount, hunguarded⟩
      have hlong := Nat.lt_of_lt_of_le hcount (statementCount_dropLast_le body)
      refine ⟨body, hbody, hlong, fun hguard => ?_⟩
      exact hends ⟨body, hbody, hguard, hcount, hunguarded⟩
    · rintro ⟨body, hbody, hlong⟩
      by_contra hnone
      refine hshort ⟨⟨body, hbody, hlong⟩, fun other hother hunguarded => ?_⟩
      by_contra hcount
      have hcut : ¬ Guarded other.dropLast := fun hguard =>
        hunguarded (guarded_of_dropLast hguard)
      exact hnone ⟨other, hother, Nat.not_le.mp hcount, hcut⟩

/-- The rule sees whole blocks exactly if a block that is read to its end is long and without a
guard, or the last character of the code makes no difference to the open bodies. -/
theorem seesWholeBlocks_iff {script : List Char} : SeesWholeBlocks limit script ↔
    (∃ block, IsReadWhole (cleaned script) block ∧ LongUnguarded limit block) ∨
      ¬ EndsWithShortStatement limit (cleaned script) ∧ ¬ EndsWithGuard limit (cleaned script) := by
  have hbody : ∀ after, (∃ body, IsBody after body ∧ LongUnguarded limit body) ↔
      (∃ body, IsClosedBody after body ∧ LongUnguarded limit body) ∨
        NeverCloses after ∧ LongUnguarded limit after := by
    intro after
    simp only [IsBody, or_and_right, exists_or, and_assoc, exists_and_left, exists_eq_left]
  rw [SeesWholeBlocks, hasLongUnguardedBlock_iff, ← exists_open_dropLast_iff]
  simp only [hbody]
  rw [exists_block_iff]
  by_cases hwhole : ∃ block, IsReadWhole (cleaned script) block ∧ LongUnguarded limit block
  · simp only [hwhole, true_or]
  · simp only [hwhole, false_or]

/-- An open body with one statement too many, which is its last character. -/
theorem not_seesWholeBlocks_shortStatement :
    ¬ SeesWholeBlocks 2 "try\x7b\x7dfinally\x7b\x7dfunction f()\x7b1;2;3".toList := by
  intro h
  have hmissed : hasLongUnguardedBlock 2
      "try\x7b\x7dfinally\x7b\x7dfunction f()\x7b1;2;3".toList = false := by decide +kernel
  have hbody : ∃ finding ∈ functionHeader.findAll
      (cleaned "try\x7b\x7dfinally\x7b\x7dfunction f()\x7b1;2;3".toList),
        finding.stop.rest = "1;2;3".toList := by decide +kernel
  obtain ⟨finding, hfinding, hrest⟩ := hbody
  have hnever : NeverCloses "1;2;3".toList := by
    rintro body ⟨-, left, hclosed⟩
    have hmem : '\x7d' ∈ "1;2;3".toList := by
      rw [hclosed]
      exact List.mem_append_right _ (List.mem_cons_self ..)
    exact absurd hmem (by decide)
  have hlong : LongUnguarded 2 "1;2;3".toList := ⟨by decide +kernel, by decide +kernel⟩
  have hreported := h.mpr (.inr ⟨finding, hfinding, _, .inr ⟨by rwa [hrest], rfl⟩, by rwa [hrest]⟩)
  rw [hmissed] at hreported
  cases hreported

end Blocks

end TagAudit.Script
