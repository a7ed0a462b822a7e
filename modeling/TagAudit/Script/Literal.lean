import TagAudit.Script.Blanking
import TagAudit.Text.Digit
import TagAudit.Text.Search

/-!
# Literals

Expressions of a script that are one literal: a string without computed parts, a whole number, or
the string of a single star.
-/

namespace TagAudit.Script

/-- The text after the quotation mark that closes a string, if the string is closed and has no
computed part. A backslash takes the next character with it, but not over a line end. -/
def afterString? (quote : Char) : List Char → Option (List Char)
  | [] => none
  | '\\' :: c :: rest => if c = '\n' then none else afterString? quote rest
  | c :: rest =>
    if c = '\\' then none
    else if c = quote then some rest
    else if quote = '`' ∧ c = '$' ∧ rest.head? = some '\x7b' then none
    else afterString? quote rest

/-- Is the expression one string literal without computed parts? -/
def isStringLiteral (expression : List Char) : Bool :=
  match expression.dropWhile Text.isBlank with
  | [] => false
  | quote :: rest => isQuote quote && (afterString? quote rest).any Text.isBlankText

/-- The digits of an expression that is one whole number. -/
def integerLiteral? (expression : List Char) : Option (List Char) :=
  let trimmed := expression.dropWhile Text.isBlank
  let digits := trimmed.takeWhile Text.isDigit
  if !digits.isEmpty && Text.isBlankText (trimmed.drop digits.length) then some digits else none

/-- Is the expression a quoted star? -/
def isQuotedStar (expression : List Char) : Bool :=
  match Text.strip expression with
  | [opening, '*', closing] => isQuote opening && opening == closing
  | _ => false

end TagAudit.Script
