import TagAudit.Proofs.Pattern.Search
import TagAudit.Script.Call

/-!
# Arguments of calls

The texts of arguments are balanced: their strings and brackets are closed, and commas stand only
inside of those. The scanner comes out of a balanced text as it went in, since a string gives it its
quotation mark back and a bracket its depth. So the arguments that were written with commas between
them and blanks around them are read again, whatever follows the call.
-/

namespace TagAudit

namespace Text

/-- Trimming a text that is trimmed does nothing at either end. -/
theorem dropWhile_of_strip_eq {s : List Char} (h : strip s = s) :
    s.dropWhile isBlank = s ∧ s.reverse.dropWhile isBlank = s.reverse := by
  have hfront : s.dropWhile isBlank = s := by
    refine (List.dropWhile_sublist isBlank).eq_of_length_le ?_
    have hend := (List.dropWhile_sublist isBlank (l := (s.dropWhile isBlank).reverse)).length_le
    have hlength := congrArg List.length h
    rw [strip, trimEnd, List.length_reverse] at hlength
    rw [List.length_reverse] at hend
    exact Nat.le_trans (Nat.le_of_eq hlength.symm) hend
  refine ⟨hfront, ?_⟩
  rw [strip, hfront, trimEnd, List.reverse_eq_iff] at h
  exact h

/-- Blanks around a trimmed text are trimmed. -/
theorem strip_append {before s after : List Char} (hbefore : isBlankText before = true)
    (hafter : isBlankText after = true) (hs : s ≠ []) (h : strip s = s) :
    strip (before ++ (s ++ after)) = s := by
  obtain ⟨hfront, hback⟩ := dropWhile_of_strip_eq h
  have hbefore' : ∀ c ∈ before, isBlank c = true := List.all_eq_true.mp hbefore
  have hafter' : ∀ c ∈ after.reverse, isBlank c = true :=
    fun c hc => List.all_eq_true.mp hafter c (List.mem_reverse.mp hc)
  have hne : ¬ s.isEmpty = true := by rwa [List.isEmpty_iff]
  rw [strip, List.dropWhile_append_of_pos hbefore', List.dropWhile_append, hfront, if_neg hne,
    trimEnd, List.reverse_append, List.dropWhile_append_of_pos hafter', hback,
    List.reverse_reverse]

/-- A text that neither begins nor ends with a blank is trimmed. -/
theorem strip_of_ends {first last : Char} (hfirst : isBlank first = false)
    (hlast : isBlank last = false) (middle : List Char) :
    strip (first :: (middle ++ [last])) = first :: (middle ++ [last]) := by
  have hback : (first :: (middle ++ [last])).reverse = last :: (first :: middle).reverse := by simp
  rw [strip, List.dropWhile_cons_of_neg (by simp [hfirst]), trimEnd, hback,
    List.dropWhile_cons_of_neg (by simp [hlast]), ← hback, List.reverse_reverse]

end Text

namespace Script

/-- The inside of a string: a backslash takes the next character with it, and no quotation mark of
the string stands alone. -/
inductive StringBody (quote : Char) : List Char → Prop
  | nil : StringBody quote []
  | plain {c : Char} {rest : List Char} (hquote : c ≠ quote) (hbackslash : c ≠ '\\')
      (later : StringBody quote rest) : StringBody quote (c :: rest)
  | escaped {c : Char} {rest : List Char} (later : StringBody quote rest) :
      StringBody quote ('\\' :: c :: rest)

theorem StringBody.of_forall {quote : Char} {body : List Char}
    (h : ∀ c ∈ body, c ≠ quote ∧ c ≠ '\\') : StringBody quote body := by
  induction body with
  | nil => exact .nil
  | cons c body ih =>
    obtain ⟨⟨hquote, hbackslash⟩, hbody⟩ := List.forall_mem_cons.mp h
    exact .plain hquote hbackslash (ih hbody)

/-- A text of plain characters, strings and balanced texts in brackets; commas are plain characters
only where the text is nested in brackets. -/
inductive Balanced : (nested : Bool) → List Char → Prop
  | nil {nested : Bool} : Balanced nested []
  | plain {nested : Bool} {c : Char} {rest : List Char} (hquote : isQuote c = false)
      (hopening : isOpening c = false) (hclosing : isClosing c = false)
      (hcomma : c = ',' → nested = true) (later : Balanced nested rest) :
      Balanced nested (c :: rest)
  | string {nested : Bool} {quote : Char} {body rest : List Char} (hquote : isQuote quote = true)
      (inside : StringBody quote body) (later : Balanced nested rest) :
      Balanced nested (quote :: (body ++ quote :: rest))
  | bracketed {nested : Bool} {opening closing : Char} {inner rest : List Char}
      (hopening : isOpening opening = true) (hclosing : isClosing closing = true)
      (inside : Balanced true inner) (later : Balanced nested rest) :
      Balanced nested (opening :: (inner ++ closing :: rest))

theorem isQuote_iff {c : Char} : isQuote c = true ↔ c = '\'' ∨ c = '"' ∨ c = '`' := by
  simp [isQuote, or_assoc]

theorem isOpening_iff {c : Char} : isOpening c = true ↔ c = '(' ∨ c = '[' ∨ c = '\x7b' := by
  simp [isOpening, or_assoc]

theorem isClosing_iff {c : Char} : isClosing c = true ↔ c = ')' ∨ c = ']' ∨ c = '\x7d' := by
  simp [isClosing, or_assoc]

/-- The kinds of characters that matter to the scanner exclude each other. -/
theorem isQuote_of_isOpening {c : Char} (h : isOpening c = true) : isQuote c = false := by
  rcases isOpening_iff.mp h with rfl | rfl | rfl <;> rfl

theorem plain_of_isClosing {c : Char} (h : isClosing c = true) :
    isQuote c = false ∧ isOpening c = false := by
  rcases isClosing_iff.mp h with rfl | rfl | rfl <;> exact ⟨rfl, rfl⟩

theorem ne_backslash_of_isQuote {c : Char} (h : isQuote c = true) : c ≠ '\\' := by
  rcases isQuote_iff.mp h with rfl | rfl | rfl <;> decide

theorem isBlank_of_isQuote {c : Char} (h : isQuote c = true) : Text.isBlank c = false := by
  rcases isQuote_iff.mp h with rfl | rfl | rfl <;> decide

section Scanner

variable {depth : Nat} {current : List Char} {done : List (List Char)} {rest : List Char}

/-- A string is read to its end. -/
theorem argumentsFrom_string {quote : Char} (hquote : isQuote quote = true) {body : List Char}
    (h : StringBody quote body) :
    argumentsFrom depth (some quote) current done (body ++ quote :: rest) =
      argumentsFrom depth none (quote :: (body.reverse ++ current)) done rest := by
  induction h generalizing current with
  | nil =>
    rw [List.nil_append, argumentsFrom.eq_def]
    simp [ne_backslash_of_isQuote hquote]
  | @plain c body hc hbackslash _ ih =>
    rw [List.cons_append, argumentsFrom.eq_def]
    simp [hc, hbackslash, ih]
  | @escaped c body _ ih =>
    rw [List.cons_append, List.cons_append, argumentsFrom]
    simp [ih]

/-- A balanced text is read, and the scanner is where it was. -/
theorem argumentsFrom_balanced {nested : Bool} {text : List Char} (h : Balanced nested text)
    (hdepth : nested = true → 0 < depth) :
    argumentsFrom depth none current done (text ++ rest) =
      argumentsFrom depth none (text.reverse ++ current) done rest := by
  -- The depth is general, since what stands in brackets is read one level deeper.
  induction h generalizing depth current rest with
  | nil => rfl
  | @plain nested c text hquote hopening hclosing hcomma _ ih =>
    have hnot : ¬ (c = ',' ∧ depth = 0) := by
      rintro ⟨hc, hzero⟩
      exact absurd hzero (Nat.ne_of_gt (hdepth (hcomma hc)))
    rw [List.cons_append, argumentsFrom]
    simp [hquote, hopening, hclosing, hnot, ih hdepth]
  | @string nested quote body text hquote inside _ ih =>
    rw [List.cons_append, List.append_assoc, List.cons_append, argumentsFrom]
    simp only [hquote, if_true]
    rw [argumentsFrom_string hquote inside, ih hdepth]
    simp
  | @bracketed nested opening closing inner text hopening hclosing _ _ ihinner ih =>
    obtain ⟨hplain, hnot⟩ := plain_of_isClosing hclosing
    rw [List.cons_append, List.append_assoc, List.cons_append, argumentsFrom]
    simp only [isQuote_of_isOpening hopening, hopening, if_true, Bool.false_eq_true, if_false]
    rw [ihinner fun _ => Nat.succ_pos depth, argumentsFrom]
    simp [hplain, hnot, hclosing, ih hdepth]

end Scanner

/-- A balanced text between other balanced texts is balanced. -/
theorem Balanced.append {nested : Bool} {s t : List Char} (hs : Balanced nested s)
    (ht : Balanced nested t) : Balanced nested (s ++ t) := by
  induction hs with
  | nil => exact ht
  | plain hquote hopening hclosing hcomma _ ih =>
    exact .plain hquote hopening hclosing hcomma (ih ht)
  | @string nested quote body text hquote inside _ ih =>
    rw [List.cons_append, List.append_assoc, List.cons_append]
    exact .string hquote inside (ih ht)
  | @bracketed nested opening closing inner text hopening hclosing inside _ _ ih =>
    rw [List.cons_append, List.append_assoc, List.cons_append]
    exact .bracketed hopening hclosing inside (ih ht)

/-- The characters that mean something to the scanner. -/
def marks : List Char := ['\'', '"', '`', '(', '[', '\x7b', ')', ']', '\x7d', ',']

/-- A text of characters that mean nothing to the scanner is balanced. -/
theorem balanced_of_class {nested : Bool} (cls : Char → Bool) (hcls : marks.any cls = false)
    {s : List Char} (h : s.all cls = true) : Balanced nested s := by
  induction s with
  | nil => exact .nil
  | cons c s ih =>
    obtain ⟨hc, hs⟩ := (Bool.and_eq_true ..).mp h
    have hmarks : c ∉ marks := fun hmem => List.any_eq_false.mp hcls c hmem hc
    simp only [marks, List.mem_cons, List.not_mem_nil, or_false, not_or] at hmarks
    refine .plain ?_ ?_ ?_ (fun hcomma => ?_) (ih hs)
    · simp [isQuote, hmarks]
    · simp [isOpening, hmarks]
    · simp [isClosing, hmarks]
    · exact absurd hcomma (by simp [hmarks])

theorem balanced_of_isBlankText {nested : Bool} {s : List Char}
    (h : Text.isBlankText s = true) : Balanced nested s :=
  balanced_of_class Text.isBlank rfl h

/-- An argument as it is written in a call, with white space around its text. -/
structure Argument where
  text : List Char
  before : List Char
  after : List Char
  balanced : Balanced false text
  nonempty : text ≠ []
  trimmed : Text.strip text = text
  blankBefore : Text.isBlankText before = true
  blankAfter : Text.isBlankText after = true

namespace Argument

/-- The text of the argument and the white space around it. -/
def written (argument : Argument) : List Char :=
  argument.before ++ (argument.text ++ argument.after)

theorem balanced_written (argument : Argument) : Balanced false argument.written :=
  (balanced_of_isBlankText argument.blankBefore).append
    (argument.balanced.append (balanced_of_isBlankText argument.blankAfter))

theorem strip_written (argument : Argument) : Text.strip argument.written = argument.text :=
  Text.strip_append argument.blankBefore argument.blankAfter argument.nonempty argument.trimmed

/-- The scanner takes in an argument and stands after it. -/
theorem argumentsFrom_append (argument : Argument) (done : List (List Char)) (rest : List Char) :
    argumentsFrom 0 none [] done (argument.written ++ rest) =
      argumentsFrom 0 none argument.written.reverse done rest := by
  rw [argumentsFrom_balanced argument.balanced_written (fun h => by cases h), List.append_nil]

/-- A comma ends an argument. -/
theorem argumentsFrom_next (argument : Argument) (done : List (List Char)) (rest : List Char) :
    argumentsFrom 0 none [] done (argument.written ++ ',' :: rest) =
      argumentsFrom 0 none [] (argument.text :: done) rest := by
  rw [← argument.strip_written, argument.argumentsFrom_append]
  conv_rhs => rw [← List.reverse_reverse argument.written]
  rfl

/-- A closing parenthesis ends the last argument. -/
theorem argumentsFrom_last (argument : Argument) (done : List (List Char)) (rest : List Char) :
    argumentsFrom 0 none [] done (argument.written ++ ')' :: rest) =
      some ((argument.text :: done).filter (!·.isEmpty)).reverse := by
  rw [← argument.strip_written, argument.argumentsFrom_append]
  conv_rhs => rw [← List.reverse_reverse argument.written]
  rfl

end Argument

/-- The arguments of a call are read one after another. -/
theorem argumentsFrom_written (argument : Argument) (arguments : List Argument)
    (done : List (List Char)) (rest : List Char) :
    argumentsFrom 0 none [] done
        ([','].intercalate ((argument :: arguments).map Argument.written) ++ ')' :: rest) =
      some ((((argument :: arguments).map Argument.text).reverse ++ done).filter
        (!·.isEmpty)).reverse := by
  induction arguments generalizing argument done with
  | nil =>
    rw [List.map_singleton, List.intercalate_singleton, argument.argumentsFrom_last]
    rfl
  | cons next arguments ih =>
    rw [List.map_cons, List.map_cons, List.intercalate_cons_cons, List.append_assoc,
      List.append_assoc, List.singleton_append, argument.argumentsFrom_next, ← List.map_cons, ih]
    simp

/-- The arguments of a call are read as they were written. -/
theorem arguments?_written (arguments : List Argument) (rest : List Char) :
    arguments? ([','].intercalate (arguments.map Argument.written) ++ ')' :: rest) =
      some (arguments.map Argument.text) := by
  cases arguments with
  | nil => rfl
  | cons argument arguments =>
    have hnonempty : ∀ text ∈ ((argument :: arguments).map Argument.text).reverse,
        (!text.isEmpty) = true := by
      intro text htext
      obtain ⟨read, -, rfl⟩ := List.mem_map.mp (List.mem_reverse.mp htext)
      simpa using read.nonempty
    rw [arguments?, argumentsFrom_written, List.append_nil, List.filter_eq_self.mpr hnonempty,
      List.reverse_reverse]

section Calls

open Pattern

variable {callee : Pattern}

theorem leastLength_callPattern_pos (callee : Pattern) : 0 < (callPattern callee).leastLength := by
  have hparenthesis : 0 < (word "(").leastLength := by decide
  simp only [callPattern, all, List.foldr_cons, leastLength]
  omega

theorem requires_callPattern (callee : Pattern) : (callPattern callee).Requires ['('] :=
  (requires_word "(").seq_left.seq_right.seq_right.seq_right

/-- Without a parenthesis there are no calls. -/
theorem callArguments_eq_nil {script : List Char} (h : '(' ∉ script) :
    callArguments callee script = [] := by
  have hnot : ¬ ['('] <:+: script :=
    fun hwithin => h (hwithin.subset (List.mem_singleton_self _))
  rw [callArguments, findAll_eq_nil (requires_callPattern callee) hnot]
  rfl

/-- A callee with a parenthesis after it opens a call, unless a name continues before it. -/
theorem endAt?_callPattern {before middle rest left captured : List Char}
    (hstart : before.head?.any isNameChar = false)
    (hcallee : callee.endAt? ⟨before, rest, []⟩ = some ⟨middle, '(' :: left, captured⟩) :
    (callPattern callee).endAt? ⟨before, rest, []⟩ = some ⟨'(' :: middle, left, captured⟩ := by
  have hedge : (notAfter isNameChar).endAt? ⟨before, rest, []⟩ = some ⟨before, rest, []⟩ := by
    simp [endAt?, tryAt, Cursor.previousIs, hstart]
  exact endAt?_seq hedge (endAt?_seq hcallee rfl)

variable {c : Char} {opening front rest : List Char}
  (hignores : (callPattern callee).ignores c = true) (hfront : opening.reverse = c :: front)

include hignores hfront

/-- A part of a script without calls adds no arguments. -/
theorem callArguments_of_passesOver
    (h : (callPattern callee).passesOver [] opening rest = true) :
    callArguments callee (opening ++ rest) = callArguments callee rest := by
  rw [callArguments, findAll_of_passesOver hignores (leastLength_callPattern_pos callee) hfront h,
    List.filterMap_map]
  rfl

/-- A call at the beginning of a script comes first. -/
theorem callArguments_of_endAt? {captured : List Char}
    (h : (callPattern callee).endAt? ⟨[], opening ++ rest, []⟩ =
      some ⟨opening.reverse, rest, captured⟩) :
    callArguments callee (opening ++ rest) =
      (arguments? rest).toList ++ callArguments callee rest := by
  rw [callArguments, findAll_of_endAt? hignores (leastLength_callPattern_pos callee) hfront h,
    List.filterMap_cons, List.filterMap_map]
  cases arguments? rest <;> rfl

omit hignores hfront

/-- The first call of a script that begins with one has the arguments that were written. -/
theorem head?_callArguments (name : String) (arguments : List Argument) (rest : List Char) :
    (callArguments (named name) (name.toList ++ '(' ::
        ([','].intercalate (arguments.map Argument.written) ++ ')' :: rest))).head? =
      some (arguments.map Argument.text) := by
  have hignores : (callPattern (named name)).ignores '(' = true :=
    (Bool.and_eq_true ..).mpr ⟨by decide, (Bool.and_eq_true ..).mpr ⟨ignores_word name, rfl⟩⟩
  have hfront : (name.toList ++ ['(']).reverse = '(' :: name.toList.reverse := by simp
  have hopens : ∀ left, (callPattern (named name)).endAt? ⟨[], name.toList ++ ['('] ++ left, []⟩ =
      some ⟨(name.toList ++ ['(']).reverse, left, []⟩ := by
    intro left
    rw [List.append_assoc, List.singleton_append, hfront]
    refine endAt?_callPattern rfl ((endAt?_word ..).trans ?_)
    rw [List.append_nil]
  rw [← List.singleton_append, ← List.append_assoc,
    callArguments_of_endAt? hignores hfront (hopens _), arguments?_written]
  rfl

/-- Commas in strings and brackets do not end an argument. -/
example : (callArguments (named "foo") "foo( g(a, ')') , [b, c])".toList).head? =
    some ["g(a, ')')".toList, "[b, c]".toList] := by decide +kernel

end Calls

end Script

end TagAudit
