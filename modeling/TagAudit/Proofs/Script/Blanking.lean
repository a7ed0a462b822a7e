import TagAudit.Proofs.Script.Arguments
import TagAudit.Script.Blanking

/-!
# Blanking in parts

A part of a script that takes the scanner back to its start is blanked by itself, and what follows
it is blanked as if the script began there. Strings and block comments are such parts: of a string
its quotation marks are left, of a comment nothing. A string may begin wherever there is code; a
comment may too, unless a slash stands before it that makes a line comment of it.
-/

namespace TagAudit.Script

section Strings

/-- The rest of a string from a place within, which may be just after a backslash. -/
inductive StringRest (quote : Char) : (escaped : Bool) → List Char → Prop
  | nil : StringRest quote false []
  | plain {c : Char} {rest : List Char} (hquote : c ≠ quote) (hbackslash : c ≠ '\\')
      (later : StringRest quote false rest) : StringRest quote false (c :: rest)
  | backslash {rest : List Char} (later : StringRest quote true rest) :
      StringRest quote false ('\\' :: rest)
  | escaped {c : Char} {rest : List Char} (later : StringRest quote false rest) :
      StringRest quote true (c :: rest)

/-- The region in which the scanner is in a string. -/
def stringRegion (quote : Char) (escaped : Bool) : Region :=
  if escaped then .escaped quote else .quoted quote

variable {quote : Char} {escaped : Bool} {body : List Char}

theorem StringBody.stringRest (h : StringBody quote body) : StringRest quote false body := by
  induction h with
  | nil => exact .nil
  | plain hquote hbackslash _ ih => exact .plain hquote hbackslash ih
  | escaped _ ih => exact .backslash (.escaped ih)

/-- The scanner stays in the string and keeps nothing of it. -/
theorem StringRest.scan_eq (h : StringRest quote escaped body) :
    (stringRegion quote escaped).scan body = (.quoted quote, []) := by
  induction h with
  | nil => rfl
  | @plain c rest hquote hbackslash _ ih =>
    have hlater : (Region.quoted quote).scan rest = (.quoted quote, []) := ih
    simp [stringRegion, Region.scan, Region.step, hquote, hbackslash, hlater]
  | @backslash rest _ ih =>
    have hlater : (Region.escaped quote).scan rest = (.quoted quote, []) := ih
    simp [stringRegion, Region.scan, Region.step, hlater]
  | @escaped c rest _ ih =>
    have hlater : (Region.quoted quote).scan rest = (.quoted quote, []) := ih
    simp [stringRegion, Region.scan, Region.step, hlater]

end Strings

namespace Region

variable {region : Region} {quote : Char} {afterColon afterStar : Bool}

theorem scan_cons (region : Region) (c : Char) (rest : List Char) :
    region.scan (c :: rest) =
      (((region.step c).1.scan rest).1, (region.step c).2 ++ ((region.step c).1.scan rest).2) :=
  rfl

/-- A quotation mark in code opens a string. -/
theorem step_quote (hquote : isQuote quote = true) (h : region.isCode = true) :
    region.step quote = (.quoted quote, region.flush ++ [quote]) := by
  rcases isQuote_iff.mp hquote with rfl | rfl | rfl <;>
    cases region <;> first | rfl | cases h

/-- A string is scanned from its first quotation mark to its last, and these are kept. -/
theorem scan_string (hquote : isQuote quote = true) (h : region.isCode = true) {body : List Char}
    (hbody : StringBody quote body) :
    region.scan (quote :: (body ++ [quote])) = (.start, region.flush ++ [quote, quote]) := by
  have hinside : (Region.quoted quote).scan body = (.quoted quote, []) := hbody.stringRest.scan_eq
  have hclosing : (Region.quoted quote).scan [quote] = (.start, [quote]) := by
    simp [scan, step, start, ne_backslash_of_isQuote hquote]
  rw [scan_cons, step_quote hquote h, scan_append, hinside, hclosing]
  simp

/-- A block comment ends with the first star and slash, and nothing of it is kept. -/
theorem scan_blockComment {comment : List Char} (h : ¬ ['*', '/'] <:+: comment)
    (hstart : afterStar = true → comment.head? ≠ some '/') :
    (blockComment afterStar).scan (comment ++ ['*', '/']) = (.start, []) := by
  induction comment generalizing afterStar with
  | nil => cases afterStar <;> rfl
  | cons c comment ih =>
    rw [List.infix_cons_iff, not_or] at h
    obtain ⟨hbegins, hlater⟩ := h
    have hstep : (blockComment afterStar).step c = (blockComment (c == '*'), []) := by
      refine if_neg ?_
      rintro ⟨rfl, hstar⟩
      exact hstart hstar rfl
    have hnext : (c == '*') = true → comment.head? ≠ some '/' := by
      intro hstar hslash
      obtain ⟨comment, rfl⟩ := List.head?_eq_some_iff.mp hslash
      obtain rfl := beq_iff_eq.mp hstar
      exact hbegins (List.prefix_append ['*', '/'] comment)
    rw [List.cons_append, scan_cons, hstep, ih hlater hnext]
    rfl

/-- A slash and a star in code open a block comment, if no slash stands before them. -/
theorem scan_slash_star (h : region.isCode = true) (hslash : region ≠ .slash false)
    (rest : List Char) : region.scan ('/' :: '*' :: rest) =
      (((blockComment false).scan rest).1, region.flush ++ ((blockComment false).scan rest).2) := by
  cases region with
  | code => rfl
  | slash afterColon =>
    cases afterColon with
    | false => exact absurd rfl hslash
    | true => rfl
  | _ => cases h

/-- Of a line comment at most the end of its line is kept. -/
theorem head?_lineComment (s : List Char) {c : Char}
    (h : ((lineComment.scan s).2 ++ (lineComment.scan s).1.flush).head? = some c) : c = '\n' := by
  induction s with
  | nil => cases h
  | cons d s ih =>
    rw [scan_cons] at h
    by_cases hend : d = '\n'
    · have hstep : lineComment.step d = (code false, [d]) := if_pos hend
      rw [hstep] at h
      exact (Option.some.inj h).symm.trans hend
    · have hstep : lineComment.step d = (lineComment, []) := if_neg hend
      rw [hstep] at h
      exact ih h

/-- Code without quotation marks and slashes is kept. -/
theorem scan_plain {s : List Char} (h : ∀ c ∈ s, isQuote c = false ∧ c ≠ '/') (afterColon : Bool) :
    ∃ last, (code afterColon).scan s = (code last, s) := by
  induction s generalizing afterColon with
  | nil => exact ⟨afterColon, rfl⟩
  | cons c s ih =>
    obtain ⟨⟨hc, hslash⟩, hlater⟩ := List.forall_mem_cons.mp h
    obtain ⟨last, hlast⟩ := ih hlater (c == ':')
    refine ⟨last, ?_⟩
    simp [scan, step, stepCode, hc, hslash, hlast]

/-- Only a slash leads to a place after a slash. -/
theorem eq_slash_of_step {c : Char} (h : (region.step c).1 = .slash afterColon) : c = '/' := by
  cases region <;> grind [step, stepCode]

end Region

section Parts

variable {before : List Char}

theorem blank_eq (script : List Char) :
    blank script = (Region.start.scan script).2 ++ (finalRegion script).flush := rfl

/-- Blanking goes on after a first part where the scan of that part ends. -/
theorem blank_append (before later : List Char) : blank (before ++ later) =
    (Region.start.scan before).2 ++
      (((finalRegion before).scan later).2 ++ ((finalRegion before).scan later).1.flush) := by
  rw [blank_eq, finalRegion, Region.scan_append, List.append_assoc, ← finalRegion]

/-- A part that takes the scanner back to its start is blanked by itself. -/
theorem blank_append_of_scan {part kept : List Char}
    (h : (finalRegion before).scan part = (.start, (finalRegion before).flush ++ kept))
    (after : List Char) :
    blank (before ++ (part ++ after)) = blank before ++ (kept ++ blank after) := by
  rw [blank_append, Region.scan_append, h]
  simp [blank_eq, finalRegion]

/-- Blanking drops the contents of a string, even if it is not closed. -/
theorem blank_string {quote : Char} (hquote : isQuote quote = true)
    (hcode : (finalRegion before).isCode = true) {body : List Char}
    (h : StringRest quote false body) (later : List Char) :
    blank (before ++ quote :: (body ++ later)) = blank (before ++ quote :: later) := by
  have hbody : (Region.quoted quote).scan body = (.quoted quote, []) := h.scan_eq
  rw [blank_append, blank_append, Region.scan_cons, Region.scan_cons,
    Region.step_quote hquote hcode, Region.scan_append, hbody, List.nil_append]

/-- An empty string ends in code. -/
theorem finalRegion_emptyString {quote : Char} (hquote : isQuote quote = true)
    (hcode : (finalRegion before).isCode = true) :
    finalRegion (before ++ [quote, quote]) = .code false := by
  rw [finalRegion, Region.scan_append]
  exact congrArg Prod.fst (Region.scan_string hquote hcode .nil)

/-- Blanking keeps code without quotation marks and slashes. -/
theorem blank_append_plain {afterColon : Bool} (hcode : finalRegion before = .code afterColon)
    {later : List Char} (h : ∀ c ∈ later, isQuote c = false ∧ c ≠ '/') :
    blank (before ++ later) = blank before ++ later := by
  obtain ⟨last, hlast⟩ := Region.scan_plain h afterColon
  rw [blank_append, hcode, hlast, blank_eq, hcode]
  simp [Region.flush]

theorem finalRegion_ne_slash (h : before.getLast? ≠ some '/') (afterColon : Bool) :
    finalRegion before ≠ .slash afterColon := by
  rcases List.eq_nil_or_concat before with rfl | ⟨front, c, rfl⟩
  · exact nofun
  · intro hslash
    rw [List.concat_eq_append, finalRegion, Region.scan_append] at hslash
    refine h ?_
    rw [List.concat_eq_append, List.getLast?_concat, Region.eq_slash_of_step hslash]

/-- Of a string its quotation marks are left. -/
theorem blank_append_string {quote : Char} (hquote : isQuote quote = true)
    (hcode : (finalRegion before).isCode = true) {body : List Char} (hbody : StringBody quote body)
    (after : List Char) : blank (before ++ quote :: (body ++ quote :: after)) =
      blank before ++ quote :: quote :: blank after := by
  have hsplit : quote :: (body ++ quote :: after) = quote :: (body ++ [quote]) ++ after := by simp
  rw [hsplit, blank_append_of_scan (Region.scan_string hquote hcode hbody)]
  rfl

/-- A second slash takes the one before it into a line comment. -/
theorem blank_append_slash_ne (h : finalRegion before = .slash false) (rest other : List Char) :
    blank (before ++ '/' :: rest) ≠ blank before ++ other := by
  intro hblank
  have hline : (Region.slash false).scan ('/' :: rest) = Region.lineComment.scan rest := rfl
  rw [blank_append, h, hline, blank_eq, h, List.append_assoc, List.append_cancel_left_eq] at hblank
  -- What is left of the line comment would have to begin with the slash that opens it.
  exact absurd (Region.head?_lineComment rest (congrArg List.head? hblank)) (by decide)

/-- Of a block comment nothing is left, exactly if there is no slash before it that makes a line
comment of it. -/
theorem blank_append_comment_iff (hcode : (finalRegion before).isCode = true) {comment : List Char}
    (hcomment : ¬ ['*', '/'] <:+: comment) (after : List Char) :
    blank (before ++ '/' :: '*' :: (comment ++ '*' :: '/' :: after)) =
      blank before ++ blank after ↔ finalRegion before ≠ .slash false := by
  constructor
  · intro hblank hslash
    exact blank_append_slash_ne hslash _ _ hblank
  · intro hslash
    have hinside : (Region.blockComment false).scan (comment ++ ['*', '/']) = (.start, []) :=
      Region.scan_blockComment hcomment nofun
    have hscan : (finalRegion before).scan ('/' :: '*' :: (comment ++ ['*', '/'])) =
        (.start, (finalRegion before).flush ++ []) := by
      rw [Region.scan_slash_star hcode hslash, hinside]
    have hsplit : '/' :: '*' :: (comment ++ '*' :: '/' :: after) =
        '/' :: '*' :: (comment ++ ['*', '/']) ++ after := by simp
    rw [hsplit, blank_append_of_scan hscan]
    rfl

/-- Blanking is compositional: after code, a string and a block comment are blanked by themselves,
whatever follows. The code must not end with a slash where a comment follows; a colon at its end
makes no difference. -/
theorem blank_composes (hcode : (finalRegion before).isCode = true) (after : List Char) :
    (∀ quote body, isQuote quote = true → StringBody quote body →
      blank (before ++ [quote] ++ body ++ [quote] ++ after) =
        blank before ++ [quote, quote] ++ blank after) ∧
    ∀ comment, ¬ ['*', '/'] <:+: comment → before.getLast? ≠ some '/' →
      blank (before ++ ['/', '*'] ++ comment ++ ['*', '/'] ++ after) =
        blank before ++ blank after := by
  constructor
  · intro quote body hquote hbody
    simpa using blank_append_string hquote hcode hbody after
  · intro comment hcomment hlast
    have hslash := finalRegion_ne_slash hlast false
    simpa using (blank_append_comment_iff hcode hcomment after).mpr hslash

/-- An apostrophe in a line comment opens no string, an escaped quotation mark closes none, and a
star without a slash closes no comment. -/
theorem blank_composes_afterLineComment :
    ((finalRegion "// it's\n".toList).isCode = true ∧ isQuote '"' = true ∧
      StringBody '"' "\\\"".toList ∧ ¬ ['*', '/'] <:+: "**".toList ∧
      "// it's\n".toList.getLast? ≠ some '/') ∧
    blank ("// it's\n".toList ++ ['"'] ++ "\\\"".toList ++ ['"'] ++ "/ 2".toList) =
      blank "// it's\n".toList ++ ['"', '"'] ++ blank "/ 2".toList ∧
    blank ("// it's\n".toList ++ ['/', '*'] ++ "**".toList ++ ['*', '/'] ++ "/ 2".toList) =
      blank "// it's\n".toList ++ blank "/ 2".toList := by
  have hcode : (finalRegion "// it's\n".toList).isCode = true := by decide +kernel
  have hquote : isQuote '"' = true := by decide
  have hbody : StringBody '"' "\\\"".toList := .escaped .nil
  have hcomment : ¬ ['*', '/'] <:+: "**".toList := by
    rw [← Text.occursIn_iff]
    decide
  have hlast : "// it's\n".toList.getLast? ≠ some '/' := by decide
  obtain ⟨hstring, hblock⟩ := blank_composes hcode "/ 2".toList
  exact ⟨⟨hcode, hquote, hbody, hcomment, hlast⟩, hstring _ _ hquote hbody, hblock _ hcomment hlast⟩

end Parts

end TagAudit.Script
