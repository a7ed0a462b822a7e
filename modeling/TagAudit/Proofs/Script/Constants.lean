import TagAudit.Proofs.Script.Arguments
import TagAudit.Proofs.Script.Scan

/-!
# Constants written as markup

A constant that is written into the markup of an element is no injection. The rule for calls reads
the constant to its end. The rule for assignments reads up to the first semicolon, which may stand
inside of the constant, and then sees the beginning of a literal only. Both rules search the text
of the constant as well, as if it were code.
-/

namespace TagAudit

namespace Script

open Pattern

/-- The inside of a constant on one line: a backslash takes the next character with it, no quotation
mark of the constant stands alone, and nothing is computed. -/
inductive ConstantBody (quote : Char) : List Char → Prop
  | nil : ConstantBody quote []
  | plain {c : Char} {rest : List Char} (hquote : c ≠ quote) (hbackslash : c ≠ '\\')
      (hline : c ≠ '\n') (hcomputed : ¬ (quote = '`' ∧ c = '$' ∧ rest.head? = some '\x7b'))
      (later : ConstantBody quote rest) : ConstantBody quote (c :: rest)
  | escaped {c : Char} {rest : List Char} (hline : c ≠ '\n') (later : ConstantBody quote rest) :
      ConstantBody quote ('\\' :: c :: rest)

section AfterString

variable {quote c : Char} {rest : List Char}

theorem afterString?_escaped (hline : c ≠ '\n') :
    afterString? quote ('\\' :: c :: rest) = afterString? quote rest := if_neg hline

theorem afterString?_quote (hbackslash : quote ≠ '\\') :
    afterString? quote (quote :: rest) = some rest := by
  rw [afterString?, if_neg hbackslash, if_pos rfl]
  rintro d rest rfl
  exact absurd rfl hbackslash

theorem afterString?_plain (hquote : c ≠ quote) (hbackslash : c ≠ '\\')
    (hcomputed : ¬ (quote = '`' ∧ c = '$' ∧ rest.head? = some '\x7b')) :
    afterString? quote (c :: rest) = afterString? quote rest := by
  rw [afterString?, if_neg hbackslash, if_neg hquote, if_neg hcomputed]
  rintro d rest rfl
  exact absurd rfl hbackslash

end AfterString

namespace ConstantBody

variable {quote : Char} {body : List Char}

theorem stringBody (h : ConstantBody quote body) : StringBody quote body := by
  induction h with
  | nil => exact .nil
  | plain hquote hbackslash _ _ _ ih => exact .plain hquote hbackslash ih
  | escaped _ _ ih => exact .escaped ih

theorem of_plain (hquote : quote ∉ body) (hbackslash : '\\' ∉ body) (hline : '\n' ∉ body)
    (hdollar : '$' ∉ body) : ConstantBody quote body := by
  induction body with
  | nil => exact .nil
  | cons c body ih =>
    simp only [List.mem_cons, not_or] at hquote hbackslash hline hdollar
    exact .plain (Ne.symm hquote.1) (Ne.symm hbackslash.1) (Ne.symm hline.1)
      (fun hcomputed => hdollar.1 hcomputed.2.1.symm)
      (ih hquote.2 hbackslash.2 hline.2 hdollar.2)

theorem newline_notMem (h : ConstantBody quote body) : '\n' ∉ body := by
  induction h with
  | nil => exact List.not_mem_nil
  | plain _ _ hline _ _ ih => simp [hline.symm, ih]
  | escaped hline _ ih => simp [hline.symm, ih]

/-- The string is closed where the constant ends. -/
theorem afterString?_append (h : ConstantBody quote body) (hquote : isQuote quote = true)
    (rest : List Char) : afterString? quote (body ++ quote :: rest) = some rest := by
  induction h with
  | nil => exact afterString?_quote (ne_backslash_of_isQuote hquote)
  | @plain c body hc hbackslash _ hcomputed _ ih =>
    refine (afterString?_plain hc hbackslash ?_).trans ih
    rintro ⟨rfl, rfl, hhead⟩
    cases body with
    | nil => cases hhead
    | cons d body => exact hcomputed ⟨rfl, rfl, hhead⟩
  | escaped hline _ ih => exact (afterString?_escaped hline).trans ih

/-- A string that begins as the constant, but ends within it, is not closed. -/
theorem afterString?_of_append {cut left : List Char} (h : ConstantBody quote (cut ++ left)) :
    afterString? quote cut = none := by
  generalize hbody : cut ++ left = body at h
  induction h generalizing cut with
  | nil =>
    obtain ⟨rfl, -⟩ := List.append_eq_nil_iff.mp hbody
    rfl
  | @plain c body hc hbackslash _ hcomputed _ ih =>
    cases cut with
    | nil => rfl
    | cons d cut =>
      obtain ⟨rfl, rfl⟩ := List.cons.inj hbody
      refine (afterString?_plain hc hbackslash ?_).trans (ih rfl)
      rintro ⟨rfl, rfl, hhead⟩
      cases cut with
      | nil => cases hhead
      | cons e cut => exact hcomputed ⟨rfl, rfl, hhead⟩
  | @escaped c body hline _ ih =>
    cases cut with
    | nil => rfl
    | cons d cut =>
      obtain ⟨rfl, hescaped⟩ := List.cons.inj hbody
      cases cut with
      -- The string ends between a backslash and what it takes.
      | nil => rfl
      | cons e cut =>
        obtain ⟨rfl, hlater⟩ := List.cons.inj hescaped
        exact (afterString?_escaped hline).trans (ih hlater)

end ConstantBody

/-- A string constant of a script, written on one line. -/
structure Constant where
  quote : Char
  body : List Char
  quotes : isQuote quote = true
  inside : ConstantBody quote body

namespace Constant

variable (constant : Constant)

/-- The constant as it is written. -/
def text : List Char := constant.quote :: (constant.body ++ [constant.quote])

theorem isStringLiteral_text : isStringLiteral constant.text = true := by
  have hblank : ¬ Text.isBlank constant.quote = true := by
    simp [isBlank_of_isQuote constant.quotes]
  rw [isStringLiteral, text, List.dropWhile_cons_of_neg hblank]
  simp only [constant.quotes, constant.inside.afterString?_append constant.quotes []]
  rfl

/-- The beginning of a constant is no literal. -/
theorem isStringLiteral_cut {cut left : List Char} (h : constant.body = cut ++ left) :
    isStringLiteral (constant.quote :: cut) = false := by
  have hblank : ¬ Text.isBlank constant.quote = true := by
    simp [isBlank_of_isQuote constant.quotes]
  have hinside := constant.inside
  rw [h] at hinside
  rw [isStringLiteral, List.dropWhile_cons_of_neg hblank]
  simp only [hinside.afterString?_of_append, Option.any_none, Bool.and_false]

/-- The beginning of a constant is within its statement up to the first semicolon. -/
theorem inStatement {cut left : List Char} (h : constant.body = cut ++ left) (hcut : ';' ∉ cut) :
    ∀ c ∈ constant.quote :: cut, (c != ';' && c != '\n') = true := by
  have hline : '\n' ∉ cut := fun hmem =>
    constant.inside.newline_notMem (h ▸ List.mem_append_left left hmem)
  refine List.forall_mem_cons.mpr ⟨?_, fun c hc => ?_⟩
  · rcases isQuote_iff.mp constant.quotes with hquote | hquote | hquote <;> rw [hquote] <;> rfl
  · rw [Bool.and_eq_true, bne_iff_ne, bne_iff_ne]
    exact ⟨ne_of_mem_of_not_mem hc hcut, ne_of_mem_of_not_mem hc hline⟩

/-- The constant as an argument of a call. -/
def argument (before after : List Char) (hbefore : Text.isBlankText before = true)
    (hafter : Text.isBlankText after = true) : Argument where
  text := constant.text
  before := before
  after := after
  balanced := .string constant.quotes constant.inside.stringBody .nil
  nonempty := List.cons_ne_nil _ _
  trimmed := Text.strip_of_ends (isBlank_of_isQuote constant.quotes)
    (isBlank_of_isQuote constant.quotes) constant.body
  blankBefore := hbefore
  blankAfter := hafter

end Constant

/-- Does the script assign markup that is not one literal? -/
def assignsComputed (script : List Char) : Bool :=
  (markupAssignment.findAll script).any fun finding => !isStringLiteral finding.stop.captured

/-- Does the script insert markup by a call that is not one literal? -/
def insertsComputed (script : List Char) : Bool :=
  (callArguments (namedMember "insertAdjacentHTML") script).any fun arguments =>
    (arguments[1]?).any (!isStringLiteral ·)

theorem injectsMarkup_eq (script : List Char) :
    injectsMarkup script = (assignsComputed script || insertsComputed script) := rfl

section Assignments

/-- The part of an assignment before the expression that is read. -/
theorem markupAssignment_eq : markupAssignment =
    all ([.word ".", .alt (.word "inner") (.word "outer"), .word "HTML", .blanks,
      .optional (.word "+"), .word "=", .notAhead (.word "="), .blanks] ++
        [.capture restOfStatement]) := rfl

/-- An assignment is read up to the first semicolon or the end of the line. -/
theorem endAt?_markupAssignment {opening : String}
    (hopening : opening = ".innerHTML = " ∨ opening = ".innerHTML += ")
    {quote : Char} (hquote : isQuote quote = true) {taken : List Char}
    (htaken : ∀ c ∈ quote :: taken, (c != ';' && c != '\n') = true) (before left : List Char) :
    markupAssignment.endAt? ⟨before, opening.toList ++ (quote :: taken ++ ';' :: left), []⟩ =
      some ⟨(quote :: taken).reverse ++ (opening.toList.reverse ++ before), ';' :: left,
        quote :: taken⟩ := by
  have hread : (all [.capture restOfStatement]).endAt?
      ⟨opening.toList.reverse ++ before, quote :: taken ++ ';' :: left, []⟩ =
        some ⟨(quote :: taken).reverse ++ (opening.toList.reverse ++ before), ';' :: left,
          quote :: taken⟩ :=
    endAt?_seq (endAt?_capture_run htaken (Nat.succ_le_succ (Nat.zero_le _)) rfl ..) rfl
  rw [markupAssignment_eq]
  refine endAt?_all_append ?_ hread
  rcases hopening with rfl | rfl <;> rcases isQuote_iff.mp hquote with rfl | rfl | rfl <;> rfl

/-- The assignment is the first of the script, and others may follow the semicolon. -/
theorem findAll_markupAssignment {opening : String}
    (hopening : opening = ".innerHTML = " ∨ opening = ".innerHTML += ")
    {quote : Char} (hquote : isQuote quote = true) {taken : List Char}
    (htaken : ∀ c ∈ quote :: taken, (c != ';' && c != '\n') = true) (left : List Char) :
    ∃ finding before, finding.stop.captured = quote :: taken ∧
      markupAssignment.findAll
          ("el".toList ++ (opening.toList ++ (quote :: taken ++ ';' :: left))) =
        finding :: markupAssignment.findAllFrom before (';' :: left) := by
  have hpos : 0 < markupAssignment.leastLength := by decide
  have hpasses : ∀ rest, markupAssignment.passesOver [] "el".toList rest = true := fun _ => rfl
  rw [findAll, findAllFrom_append hpos (hpasses _),
    findAllFrom_of_endAt? hpos (endAt?_markupAssignment hopening hquote htaken ..)]
  exact ⟨_, _, rfl, rfl⟩

/-- The rule for assignments takes a constant for computed exactly if it has a semicolon. -/
theorem assignsComputed_constant {opening : String}
    (hopening : opening = ".innerHTML = " ∨ opening = ".innerHTML += ") (constant : Constant) :
    assignsComputed ("el".toList ++ (opening.toList ++ (constant.text ++ [';']))) =
      constant.body.contains ';' := by
  by_cases hmem : ';' ∈ constant.body
  · -- What is read ends before the first semicolon, so its string is not closed.
    obtain ⟨cut, left, hbody, hcut⟩ := List.eq_append_cons_of_mem hmem
    have htext : constant.text ++ [';'] =
        constant.quote :: cut ++ ';' :: (left ++ [constant.quote, ';']) := by
      simp [Constant.text, hbody]
    obtain ⟨finding, before, hcaptured, hfindings⟩ := findAll_markupAssignment hopening
      constant.quotes (constant.inStatement hbody hcut) (left ++ [constant.quote, ';'])
    rw [assignsComputed, htext, hfindings, List.any_cons, hcaptured,
      constant.isStringLiteral_cut hbody, List.contains_iff_mem.mpr hmem]
    rfl
  · -- The constant is read as a whole, and nothing is left for another assignment.
    have htaken : ∀ c ∈ constant.text, (c != ';' && c != '\n') = true := by
      have hinside := constant.inStatement (List.append_nil _).symm hmem
      intro c hc
      rw [Constant.text, ← List.cons_append] at hc
      rcases List.mem_append.mp hc with hc | hc
      · exact hinside c hc
      · exact hinside c (List.mem_singleton.mp hc ▸ List.mem_cons_self ..)
    have hnothing : ∀ before, markupAssignment.findAllFrom before [';'] = [] := by
      intro before
      rw [findAllFrom_cons (by decide) rfl, findAllFrom]
      rfl
    obtain ⟨finding, before, hcaptured, hfindings⟩ := findAll_markupAssignment hopening
      constant.quotes htaken []
    have hcontains : constant.body.contains ';' = false := by simpa using hmem
    have hliteral := constant.isStringLiteral_text
    rw [Constant.text] at hliteral ⊢
    rw [assignsComputed, hfindings, hnothing, List.any_cons, hcaptured, hliteral, hcontains]
    rfl

theorem injectsMarkup_assignment {opening : String}
    (hopening : opening = "el.innerHTML = " ∨ opening = "el.innerHTML += ") (constant : Constant) :
    injectsMarkup (opening.toList ++ (constant.text ++ [';'])) =
      (constant.body.contains ';' || insertsComputed (constant.text ++ [';'])) := by
  have hassigns : assignsComputed (opening.toList ++ (constant.text ++ [';'])) =
      constant.body.contains ';' := by
    rcases hopening with rfl | rfl
    · have hsplit : "el.innerHTML = ".toList = "el".toList ++ ".innerHTML = ".toList := by simp
      rw [hsplit, List.append_assoc, assignsComputed_constant (.inl rfl)]
    · have hsplit : "el.innerHTML += ".toList = "el".toList ++ ".innerHTML += ".toList := by simp
      rw [hsplit, List.append_assoc, assignsComputed_constant (.inr rfl)]
  have hcalls : callArguments (namedMember "insertAdjacentHTML")
      (opening.toList ++ (constant.text ++ [';'])) =
        callArguments (namedMember "insertAdjacentHTML") (constant.text ++ [';']) := by
    rcases hopening with rfl | rfl <;> exact callArguments_of_passesOver rfl rfl rfl
  rw [injectsMarkup_eq, hassigns, insertsComputed, hcalls, ← insertsComputed]

end Assignments

section Calls

/-- The place before the end of an element. -/
def beforeEnd : Constant := ⟨'\'', "beforeend".toList, rfl,
  .of_plain (by decide) (by decide) (by decide) (by decide)⟩

/-- The rule for calls reads a constant to its end, and then goes on inside of it. -/
theorem callArguments_insertion (constant : Constant) :
    callArguments (namedMember "insertAdjacentHTML")
        ("el.insertAdjacentHTML('beforeend', ".toList ++ (constant.text ++ [')', ';'])) =
      [beforeEnd.text, constant.text] ::
        callArguments (namedMember "insertAdjacentHTML") (constant.text ++ [')', ';']) := by
  have hwritten : "'beforeend', ".toList ++ (constant.text ++ [')', ';']) =
      [','].intercalate ([beforeEnd.argument [] [] rfl rfl,
        constant.argument [' '] [] rfl rfl].map Argument.written) ++ ')' :: [';'] := by
    rw [List.map_cons, List.map_singleton, List.intercalate_cons_cons, List.intercalate_singleton]
    simp [Argument.written, Constant.argument, beforeEnd, Constant.text]
  have hopening : "el.insertAdjacentHTML('beforeend', ".toList ++ (constant.text ++ [')', ';']) =
      "el.insertAdjacentHTML(".toList ++
        ("'beforeend', ".toList ++ (constant.text ++ [')', ';'])) := by simp
  rw [hopening]
  calc callArguments (namedMember "insertAdjacentHTML")
        ("el.insertAdjacentHTML(".toList ++
          ("'beforeend', ".toList ++ (constant.text ++ [')', ';'])))
      = (arguments? ("'beforeend', ".toList ++ (constant.text ++ [')', ';']))).toList ++
          callArguments (namedMember "insertAdjacentHTML")
            ("'beforeend', ".toList ++ (constant.text ++ [')', ';'])) :=
        callArguments_of_endAt? rfl rfl rfl
    _ = (arguments? ("'beforeend', ".toList ++ (constant.text ++ [')', ';']))).toList ++
          callArguments (namedMember "insertAdjacentHTML") (constant.text ++ [')', ';']) :=
        congrArg _ (callArguments_of_passesOver rfl rfl rfl)
    _ = [beforeEnd.text, constant.text] ::
          callArguments (namedMember "insertAdjacentHTML") (constant.text ++ [')', ';']) := by
        rw [hwritten, arguments?_written]
        rfl

theorem injectsMarkup_insertion (constant : Constant) :
    injectsMarkup
        ("el.insertAdjacentHTML('beforeend', ".toList ++ (constant.text ++ [')', ';'])) =
      injectsMarkup (constant.text ++ [')', ';']) := by
  have hfindings : markupAssignment.findAll
      ("el.insertAdjacentHTML('beforeend', ".toList ++ (constant.text ++ [')', ';'])) =
        (markupAssignment.findAll (constant.text ++ [')', ';'])).map
          (·.within "el.insertAdjacentHTML('beforeend', ".toList.reverse) :=
    findAll_of_passesOver rfl (by decide) rfl rfl
  rw [injectsMarkup, injectsMarkup, hfindings, List.any_map, callArguments_insertion,
    List.any_cons]
  simp [constant.isStringLiteral_text, Function.comp_def, Cursor.within, Finding.within]

end Calls

/-- The ways to write a constant as markup. -/
inductive MarkupWrite
  | assign
  | append
  | insert

namespace MarkupWrite

/-- The script before the constant. -/
def opening : MarkupWrite → String
  | assign => "el.innerHTML = "
  | append => "el.innerHTML += "
  | insert => "el.insertAdjacentHTML('beforeend', "

/-- The script after the constant. -/
def closing : MarkupWrite → List Char
  | assign | append => [';']
  | insert => [')', ';']

/-- The script that writes a constant. -/
def script (write : MarkupWrite) (constant : Constant) : List Char :=
  write.opening.toList ++ (constant.text ++ write.closing)

/-- Is the write of a constant taken for one of computed markup? -/
def isMisread : MarkupWrite → Constant → Bool
  | assign, constant | append, constant =>
    constant.body.contains ';' || insertsComputed (constant.text ++ [';'])
  | insert, constant => injectsMarkup (constant.text ++ [')', ';'])

theorem injectsMarkup_script (write : MarkupWrite) (constant : Constant) :
    injectsMarkup (write.script constant) = write.isMisread constant := by
  cases write with
  | assign => exact injectsMarkup_assignment (.inl rfl) constant
  | append => exact injectsMarkup_assignment (.inr rfl) constant
  | insert => exact injectsMarkup_insertion constant

end MarkupWrite

/-- A constant that is written as markup is cleared exactly if the intervals of timers can be read,
and a sanitizer is named or the write is not misread. -/
theorem clears_constant_iff (config : Config) (firesOn : String) (write : MarkupWrite)
    (constant : Constant) : Clears config firesOn (write.script constant) .htmlInjection ↔
      TimersReadable config (write.script constant) ∧
        (sanitizerCall.occursIn (write.script constant) = true ∨
          write.isMisread constant = false) := by
  rw [clears_iff, breaks, write.injectsMarkup_script]
  cases sanitizerCall.occursIn (write.script constant) <;> simp

/-- A constant of one entity, which ends with a semicolon. -/
def nonBreakingSpace : Constant := ⟨'\'', "&nbsp;".toList, rfl,
  .of_plain (by decide) (by decide) (by decide) (by decide)⟩

/-- Assigning the entity is taken for an injection, inserting it is not. -/
theorem not_clears_nonBreakingSpace :
    ¬ Clears Config.default "UNKNOWN" (MarkupWrite.assign.script nonBreakingSpace)
        .htmlInjection ∧
      Clears Config.default "UNKNOWN" (MarkupWrite.insert.script nonBreakingSpace)
        .htmlInjection := by
  decide +kernel

section PlainConstants

variable (write : MarkupWrite) (constant : Constant)

theorem parenthesis_notMem (hcall : '(' ∉ constant.body) :
    '(' ∉ constant.text ++ write.closing := by
  have hquote : '(' ≠ constant.quote := by
    rcases isQuote_iff.mp constant.quotes with h | h | h <;> rw [h] <;> decide
  have hclosing : '(' ∉ write.closing := by cases write <;> decide
  simp [Constant.text, hquote, hcall, hclosing]

/-- Timers and sanitizers are only looked for from the constant on. -/
theorem callArguments_timer {timer : String} (htimer : timer ∈ ["setInterval", "setTimeout"]) :
    callArguments (named timer) (write.script constant) =
      callArguments (named timer) (constant.text ++ write.closing) := by
  rcases List.mem_pair.mp htimer with rfl | rfl <;> cases write <;>
    exact callArguments_of_passesOver rfl rfl rfl

theorem sanitizerCall_script (hcall : '(' ∉ constant.body) :
    sanitizerCall.occursIn (write.script constant) = false := by
  have hrequires : sanitizerCall.Requires ['('] :=
    (requires_word "(").seq_left.seq_right.seq_left.seq_right.seq_right
  have hnot : ¬ ['('] <:+: constant.text ++ write.closing := fun hwithin =>
    parenthesis_notMem write constant hcall (hwithin.subset (List.mem_singleton_self _))
  have hfindings : sanitizerCall.findAll (write.script constant) =
      (sanitizerCall.findAll (constant.text ++ write.closing)).map
        (·.within write.opening.toList.reverse) := by
    cases write <;> exact findAll_of_passesOver rfl (by decide) rfl rfl
  rw [occursIn_eq_false_iff, hfindings, findAll_eq_nil hrequires hnot, List.map_nil]

/-- Without the markup of an element there is no assignment to it. -/
theorem assignsComputed_insertion (hmarkup : ¬ "HTML".toList <:+: constant.body) :
    assignsComputed (constant.text ++ [')', ';']) = false := by
  have hrequires : markupAssignment.Requires "HTML".toList :=
    (requires_word "HTML").seq_left.seq_right.seq_right
  have hquote : constant.quote ∉ "HTML".toList := by
    rcases isQuote_iff.mp constant.quotes with h | h | h <;> rw [h] <;> decide
  have hnot : ¬ "HTML".toList <:+: constant.text ++ [')', ';'] := by
    have hsplit : constant.text ++ [')', ';'] =
        [] ++ constant.quote :: (constant.body ++ constant.quote :: [')', ';']) := by
      simp [Constant.text]
    rw [hsplit]
    intro hwhole
    rcases Text.infix_of_infix_append_cons hquote hwhole with hfront | hlater
    · exact absurd hfront (by decide)
    · rcases Text.infix_of_infix_append_cons hquote hlater with hbody | hclosing
      · exact hmarkup hbody
      · exact absurd hclosing (by decide)
  rw [assignsComputed, findAll_eq_nil hrequires hnot]
  rfl

/-- A constant that names neither calls nor the markup of an element is cleared where it is
inserted, and where it is assigned exactly if it has no semicolon. -/
theorem clears_plainConstant_iff (config : Config) (firesOn : String)
    (hcall : '(' ∉ constant.body) (hmarkup : ¬ "HTML".toList <:+: constant.body) :
    Clears config firesOn (write.script constant) .htmlInjection ↔
      write = .insert ∨ ';' ∉ constant.body := by
  have hnone : ∀ callee, callArguments callee (constant.text ++ write.closing) = [] :=
    fun callee => callArguments_eq_nil (parenthesis_notMem write constant hcall)
  have htimers : TimersReadable config (write.script constant) := by
    intro timer htimer
    rw [timerIntervals, callArguments_timer write constant htimer, hnone]
    exact Failure.soundUntil_nil _ _
  have hinserts : insertsComputed (constant.text ++ write.closing) = false := by
    rw [insertsComputed, hnone]
    rfl
  rw [clears_iff, breaks, write.injectsMarkup_script, sanitizerCall_script write constant hcall,
    and_iff_right htimers]
  cases write with
  | assign | append =>
    simp only [MarkupWrite.closing] at hinserts
    simp [MarkupWrite.isMisread, hinserts]
  | insert =>
    simp only [MarkupWrite.closing] at hinserts
    simp [MarkupWrite.isMisread, injectsMarkup_eq, hinserts,
      assignsComputed_insertion constant hmarkup]

end PlainConstants

end Script

end TagAudit
