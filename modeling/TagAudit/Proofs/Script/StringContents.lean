import Mathlib.Algebra.Order.BigOperators.Group.List
import Mathlib.Algebra.Order.Group.Nat
import TagAudit.Proofs.Script.Blanking
import TagAudit.Proofs.Script.Blocks
import TagAudit.Proofs.Script.Elements

/-!
# Contents of strings in the rule for long blocks

Blanking a script drops the contents of its strings, so what a string says makes no difference to
the blocks. But script elements are cut out before, and the cut reads strings as well: an element
that begins in a string and is not closed there takes away the end of the string and what follows,
up to the next closing bracket. Two strings are told apart exactly if one of them leaves an element
open and the other does not.
-/

namespace TagAudit.Script

open Pattern

section Strings

theorem StringBody.of_all {quote : Char} {body : List Char}
    (h : (body.all fun c => c != quote && c != '\\') = true) : StringBody quote body := by
  refine .of_forall fun c hc => ?_
  simpa using List.all_eq_true.mp h c hc

variable {quote : Char} {escaped : Bool} {body : List Char}

namespace StringRest

/-- After any first character the string goes on. -/
theorem tail {c : Char} {rest : List Char} (h : StringRest quote escaped (c :: rest)) :
    ∃ next, StringRest quote next rest ∧
      ∀ other, StringRest quote next other → StringRest quote escaped (c :: other) := by
  cases h with
  | plain hquote hbackslash later => exact ⟨false, later, fun _ => .plain hquote hbackslash⟩
  | backslash later => exact ⟨true, later, fun _ => .backslash⟩
  | escaped later => exact ⟨false, later, fun _ => .escaped⟩

/-- An angle bracket leaves the string in a place that is not just after a backslash. -/
theorem afterBracket {front back : List Char}
    (h : StringRest quote escaped (front ++ '>' :: back)) : StringRest quote false back := by
  induction front generalizing escaped with
  | nil =>
    cases h with
    | plain _ _ later => exact later
    | escaped later => exact later
  | cons c front ih =>
    obtain ⟨next, hrest, -⟩ := h.tail
    exact ih hrest

theorem newline (hquote : isQuote quote = true) {rest : List Char}
    (h : StringRest quote false rest) (escaped : Bool) :
    StringRest quote escaped ('\n' :: rest) := by
  cases escaped with
  | true => exact .escaped h
  | false =>
    refine .plain ?_ (by decide) h
    rintro rfl
    exact absurd hquote (by decide)

end StringRest

/-- What is left of a script after a string that begins outside of elements. -/
def afterString (quote : Char) (body post : List Char) : List Char :=
  if leavesOpen body && post.contains '>' then withoutElements (pastBracket post)
  else quote :: withoutElements post

/-- An element that the string leaves open ends with the next closing bracket, if there is one. -/
theorem withoutElements_leftOpen (hquote : isQuote quote = true)
    (h : StringRest quote escaped body) (hopens : opens body = true) (hopen : '>' ∉ body)
    (post : List Char) : ∃ left, StringRest quote escaped left ∧
      withoutElements (body ++ quote :: post) = left ++ afterString quote body post := by
  have hleaves : leavesOpen body = true := by
    cases body with
    | nil => exact absurd hopens (by decide)
    | cons c rest => simp [leavesOpen, hopens, hopen]
  have hbracket : '>' ∉ body ++ [quote] := by
    intro hmem
    obtain rfl := List.mem_singleton.mp ((List.mem_append.mp hmem).resolve_left hopen)
    exact absurd hquote (by decide)
  by_cases hpost : '>' ∈ post
  -- The element takes the closing quotation mark with it.
  · have hclosed : '>' ∈ body ++ quote :: post :=
      List.mem_append_right _ (List.mem_cons_of_mem _ hpost)
    refine ⟨['\n'], StringRest.nil.newline hquote escaped, ?_⟩
    rw [withoutElements_of_opens ((opens_append_quote hquote body post).trans hopens) hclosed,
      List.append_cons, pastBracket_append hbracket]
    simp [afterString, hleaves, hpost]
  · have hnone : '>' ∉ body ++ quote :: post := by
      rw [List.append_cons, List.mem_append, not_or]
      exact ⟨hbracket, hpost⟩
    refine ⟨body, h, ?_⟩
    rw [withoutElements_eq_self (.inr hnone)]
    simp [afterString, hpost, withoutElements_eq_self (.inr hpost)]

/-- Cutting out elements leaves a string a string, except that an element that is left open takes
the end of the string away. -/
theorem withoutElements_string (hquote : isQuote quote = true)
    (h : StringRest quote escaped body) (post : List Char) :
    ∃ left, StringRest quote escaped left ∧
      withoutElements (body ++ quote :: post) = left ++ afterString quote body post := by
  -- An element may begin between a backslash and what it takes, so the induction is over the places
  -- within a string and not over string bodies.
  induction hlength : body.length using Nat.strongRecOn generalizing escaped body with
  | ind length ih =>
    subst hlength
    cases body with
    | nil =>
      refine ⟨[], h, ?_⟩
      rw [withoutElements_append_quote hquote rfl, withoutElements_nil]
      rfl
    | cons c rest =>
      have hsame : opens (c :: rest ++ quote :: post) = opens (c :: rest) :=
        opens_append_quote hquote _ post
      by_cases hopens : opens (c :: rest) = true
      · by_cases hclosed : '>' ∈ c :: rest
        · obtain ⟨front, hsplit, -⟩ := exists_split_of_mem hclosed
          rw [hsplit] at h
          obtain ⟨left, hleft, hcut⟩ := ih _ (length_pastBracket_lt hclosed) h.afterBracket rfl
          refine ⟨'\n' :: left, hleft.newline hquote escaped, ?_⟩
          rw [withoutElements_of_opens (hsame.trans hopens) (List.mem_append_left _ hclosed),
            pastBracket_append_of_mem hclosed, hcut, afterString, leavesOpen_pastBracket hclosed,
            afterString, List.cons_append]
        · exact withoutElements_leftOpen hquote h hopens hclosed post
      · obtain ⟨next, hrest, hback⟩ := h.tail
        obtain ⟨left, hleft, hcut⟩ := ih rest.length (Nat.lt_succ_self _) hrest rfl
        have hstays : opens (c :: (rest ++ quote :: post)) = true →
            '>' ∉ c :: (rest ++ quote :: post) :=
          fun hopens' => absurd (hsame.symm.trans hopens') hopens
        have hleaves : leavesOpen (c :: rest) = leavesOpen rest := by
          simp [leavesOpen, hopens]
        refine ⟨c :: left, hback left hleft, ?_⟩
        rw [List.cons_append, withoutElements_cons hstays, hcut, afterString, ← hleaves,
          afterString, List.cons_append]

end Strings

section Scripts

variable {before : List Char} {quote : Char}

/-- The beginning of a script leaves no element open, and without its elements it ends outside of
strings and comments. -/
structure Settled (before : List Char) : Prop where
  closed : leavesOpen before = false
  code : (finalRegion (withoutElements before)).isCode = true

/-- In a beginning without script elements it is enough that its scan ends in code. -/
theorem settled_of_isCode (hcode : (finalRegion before).isCode = true) (h : '<' ∉ before) :
    Settled before := by
  refine ⟨leavesOpen_of_notMem h, ?_⟩
  rwa [withoutElements_eq_self (.inl h)]

/-- The code of a script does not depend on what a string says, but on what it leaves open. -/
theorem cleaned_string (hquote : isQuote quote = true) (hbefore : Settled before)
    {body : List Char} (h : StringBody quote body) (post : List Char) :
    cleaned (before ++ quote :: (body ++ quote :: post)) =
      blank (withoutElements before ++ quote :: afterString quote body post) := by
  obtain ⟨left, hleft, hcut⟩ := withoutElements_string hquote h.stringRest post
  have hcleaned : ∀ script, cleaned script = blank (withoutElements script) := fun _ => rfl
  rw [hcleaned, withoutElements_append_quote hquote hbefore.closed, hcut,
    blank_string hquote hbefore.code hleft]

/-- Statements that are numbers. -/
def numbers (count : Nat) : List Char := (List.replicate count ['1', ';']).flatten

/-- A function whose statements are numbers. -/
def numbersFunction (count : Nat) : List Char :=
  ';' :: ("=>\x7b".toList ++ (numbers count ++ ['\x7d']))

theorem numbers_succ (count : Nat) : numbers (count + 1) = '1' :: ';' :: numbers count := rfl

theorem statementCount_numbers (count : Nat) : statementCount (numbers count) = count := by
  induction count with
  | zero => rfl
  | succ count ih =>
    have hsplit : Text.splitAt endsStatement ('1' :: ';' :: numbers count) =
        ['1'] :: Text.splitAt endsStatement (numbers count) := rfl
    have hone : Text.isBlankText ['1'] = false := by decide
    rw [statementCount] at ih
    simp [numbers_succ, statementCount, hsplit, hone, ih]

theorem braced_numbers (count : Nat) : Braced (numbers count) := by
  induction count with
  | zero => exact .nil
  | succ count ih =>
    exact .plain (by decide) (by decide) (.plain (by decide) (by decide) ih)

theorem mem_numbers {count : Nat} {c : Char} (h : c ∈ numbers count) : c ∈ ['1', ';'] := by
  obtain ⟨piece, hpiece, hc⟩ := List.mem_flatten.mp h
  rwa [← List.eq_of_mem_replicate hpiece]

theorem mem_numbersFunction {count : Nat} {c : Char} (h : c ∈ numbersFunction count) :
    c ∈ [';', '=', '>', '\x7b', '1', '\x7d'] := by
  have hpieces : c ∈ [';', '=', '>', '\x7b'] ++ (numbers count ++ ['\x7d']) := h
  simp only [List.mem_append] at hpieces
  rcases hpieces with hmem | hmem | hmem
  · exact List.mem_append_left ['1', '\x7d'] hmem
  · have hnumber : c = '1' ∨ c = ';' := by simpa using mem_numbers hmem
    rcases hnumber with rfl | rfl <;> decide
  · obtain rfl := List.mem_singleton.mp hmem
    decide

/-- The function is found wherever it stands, and its statements are its body. -/
theorem longUnguarded_numbersFunction (front : List Char) (limit : Nat) {script : List Char}
    (h : cleaned script = front ++ numbersFunction (limit + 1)) :
    hasLongUnguardedBlock limit script = true := by
  have hend : functionHeader.endAt? ⟨';' :: (front.reverse ++ []),
      "=>\x7b".toList ++ (numbers (limit + 1) ++ ['\x7d']), []⟩ =
        some ⟨"=>\x7b".toList.reverse ++ (';' :: (front.reverse ++ [])),
          numbers (limit + 1) ++ ['\x7d'], []⟩ := rfl
  obtain ⟨finding, hfinding, hstop⟩ :=
    exists_mem_findAllFrom (by decide : 0 < functionHeader.leastLength) (by decide) hend
  have hbody : IsClosedBody finding.stop.rest (numbers (limit + 1)) := by
    rw [hstop]
    exact ⟨braced_numbers _, [], rfl⟩
  have hlong : LongUnguarded limit (numbers (limit + 1)) := by
    refine ⟨by rw [statementCount_numbers]; exact Nat.lt_succ_self limit, ?_⟩
    rintro ⟨before, blanks, after, hsplit, -⟩
    have hmem : 't' ∈ numbers (limit + 1) := by
      rw [hsplit]
      simp
    exact absurd (mem_numbers hmem) (by decide)
  refine hasLongUnguardedBlock_iff.mpr (.inl ⟨_, .inr ⟨finding, ?_, hbody⟩, hlong⟩)
  rw [h]
  exact hfinding

theorem plain_of_mem_numbersFunction {count : Nat} {c : Char} (h : c ∈ numbersFunction count) :
    (isQuote c = false ∧ c ≠ '/') ∧ c ≠ '<' ∧ c ≠ '\\' := by
  have hall : ([';', '=', '>', '\x7b', '1', '\x7d'].all fun c =>
      (!isQuote c && c != '/') && c != '<' && c != '\\') = true := by decide
  simpa [and_assoc] using List.all_eq_true.mp hall c (mem_numbersFunction h)

/-- After a string that leaves no element open the function is part of the code. -/
theorem cleaned_numbersFunction_of_closed (hquote : isQuote quote = true)
    (hbefore : Settled before) {body : List Char} (h : StringBody quote body)
    (hclosed : leavesOpen body = false) (count : Nat) :
    cleaned (before ++ quote :: (body ++ quote :: numbersFunction count)) =
      blank (withoutElements before ++ [quote, quote]) ++ numbersFunction count := by
  have hbracket : '<' ∉ numbersFunction count :=
    fun hmem => (plain_of_mem_numbersFunction hmem).2.1 rfl
  have hafter : afterString quote body (numbersFunction count) =
      quote :: numbersFunction count := by
    simp [afterString, hclosed, withoutElements_eq_self (.inl hbracket)]
  rw [cleaned_string hquote hbefore h, hafter,
    ← blank_append_plain (finalRegion_emptyString hquote hbefore.code)
      fun c hc => (plain_of_mem_numbersFunction hc).1]
  simp

/-- After a string that leaves an element open the function is part of the string. -/
theorem cleaned_numbersFunction_of_open (hquote : isQuote quote = true)
    (hbefore : Settled before) {body : List Char} (h : StringBody quote body)
    (hopen : leavesOpen body = true) (count : Nat) :
    cleaned (before ++ quote :: (body ++ quote :: numbersFunction count)) =
      blank (withoutElements before ++ [quote]) := by
  have hclosing : (numbersFunction count).contains '>' = true := rfl
  have hsuffix : pastBracket (numbersFunction count) ⊆ numbersFunction count :=
    ((List.tail_suffix _).trans (List.dropWhile_suffix _)).subset
  have hbracket : '<' ∉ pastBracket (numbersFunction count) :=
    fun hmem => (plain_of_mem_numbersFunction (hsuffix hmem)).2.1 rfl
  have hafter : afterString quote body (numbersFunction count) =
      pastBracket (numbersFunction count) := by
    rw [afterString, hopen, hclosing, withoutElements_eq_self (.inl hbracket)]
    rfl
  have hstring : StringBody quote (pastBracket (numbersFunction count)) := by
    refine .of_forall fun c hc => ?_
    obtain ⟨⟨hc, -⟩, -, hbackslash⟩ := plain_of_mem_numbersFunction (hsuffix hc)
    refine ⟨?_, hbackslash⟩
    rintro rfl
    rw [hquote] at hc
    cases hc
  rw [cleaned_string hquote hbefore h, hafter, ← List.append_nil (pastBracket _),
    blank_string hquote hbefore.code hstring.stringRest]

/-- No block of the code is longer than a high enough limit. -/
theorem exists_limit (code : List Char) :
    ∃ limit, ∀ script, cleaned script = code → hasLongUnguardedBlock limit script = false := by
  let counts := (code :: functionBodies code).map statementCount
  refine ⟨counts.sum, ?_⟩
  rintro script rfl
  rw [hasLongUnguardedBlock, List.any_eq_false]
  intro block hblock
  have hle : statementCount block ≤ counts.sum := List.le_sum_of_mem (List.mem_map_of_mem hblock)
  rw [isLongUnguarded, decide_eq_false (Nat.not_lt.mpr hle), Bool.false_and]
  exact Bool.false_ne_true

/-- A string that leaves no element open and one that does are told apart by a function that comes
after them. -/
theorem exists_telling (hquote : isQuote quote = true) (hbefore : Settled before)
    {first second : List Char} (hfirst : StringBody quote first) (hsecond : StringBody quote second)
    (hclosed : leavesOpen first = false) (hopen : leavesOpen second = true) :
    ∃ post limit,
      hasLongUnguardedBlock limit (before ++ quote :: (first ++ quote :: post)) = true ∧
      hasLongUnguardedBlock limit (before ++ quote :: (second ++ quote :: post)) = false := by
  obtain ⟨limit, hlimit⟩ := exists_limit (blank (withoutElements before ++ [quote]))
  refine ⟨numbersFunction (limit + 1), limit, ?_, ?_⟩
  · exact longUnguarded_numbersFunction _ limit
      (cleaned_numbersFunction_of_closed hquote hbefore hfirst hclosed _)
  · exact hlimit _ (cleaned_numbersFunction_of_open hquote hbefore hsecond hopen _)

/-- The rule for long blocks judges a script with the one string as it does with the other, whatever
follows the string. -/
def SameVerdicts (before : List Char) (quote : Char) (first second : List Char) : Prop :=
  ∀ post limit, hasLongUnguardedBlock limit (before ++ quote :: (first ++ quote :: post)) =
    hasLongUnguardedBlock limit (before ++ quote :: (second ++ quote :: post))

/-- The contents of two strings make no difference, whatever follows, exactly if both leave an
element open or neither does. -/
theorem sameVerdicts_iff (hquote : isQuote quote = true) (hbefore : Settled before)
    {first second : List Char} (hfirst : StringBody quote first)
    (hsecond : StringBody quote second) :
    SameVerdicts before quote first second ↔ leavesOpen first = leavesOpen second := by
  constructor
  · intro hsame
    by_contra hdiffer
    cases hopen : leavesOpen first with
    | false =>
      have hopen' : leavesOpen second = true := by
        rwa [hopen, eq_comm, Bool.not_eq_false] at hdiffer
      obtain ⟨post, limit, hyes, hno⟩ :=
        exists_telling hquote hbefore hfirst hsecond hopen hopen'
      rw [hsame post limit, hno] at hyes
      cases hyes
    | true =>
      have hopen' : leavesOpen second = false := by
        rwa [hopen, eq_comm, Bool.not_eq_true] at hdiffer
      obtain ⟨post, limit, hyes, hno⟩ :=
        exists_telling hquote hbefore hsecond hfirst hopen' hopen
      rw [← hsame post limit, hno] at hyes
      cases hyes
  · intro hleaves post limit
    have hcleaned : cleaned (before ++ quote :: (first ++ quote :: post)) =
        cleaned (before ++ quote :: (second ++ quote :: post)) := by
      rw [cleaned_string hquote hbefore hfirst, cleaned_string hquote hbefore hsecond, afterString,
        hleaves, afterString]
    simp only [hasLongUnguardedBlock, hcleaned]

/-- Statements in a string do not count. -/
theorem sameVerdicts_statements :
    (isQuote '\'' = true ∧ Settled "s = ".toList ∧ StringBody '\'' "a(); b();".toList ∧
      StringBody '\'' "x".toList) ∧
    SameVerdicts "s = ".toList '\'' "a(); b();".toList "x".toList := by
  have hquote : isQuote '\'' = true := by decide
  have hbefore : Settled "s = ".toList := settled_of_isCode (by decide +kernel) (by decide)
  have hstatements : StringBody '\'' "a(); b();".toList := .of_all (by decide)
  have hletter : StringBody '\'' "x".toList := .of_all (by decide)
  exact ⟨⟨hquote, hbefore, hstatements, hletter⟩,
    (sameVerdicts_iff hquote hbefore hstatements hletter).mpr (by decide +kernel)⟩

/-- A string that spells the beginning of a script element hides the code after it. -/
theorem not_sameVerdicts_scriptName :
    ¬ SameVerdicts "s = ".toList '\'' "<script".toList "x".toList := by
  intro h
  have hpost := h "; a(); b(); if (i > 0) c();".toList 2
  exact absurd hpost (by decide +kernel)

end Scripts

end TagAudit.Script
