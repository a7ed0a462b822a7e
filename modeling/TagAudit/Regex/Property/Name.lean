import TagAudit.AnalysisError
import TagAudit.Binary64.Reading
import TagAudit.Number

/-!
# Spelling of property names

Names of properties and of their values are looked up in one spelling. A name that writes a number
becomes the text of a fraction; any other name loses its blanks, hyphens and underscores and is put
in capitals. The fraction of a number is its expansion by whole parts of reciprocals, which ends as
soon as the part after the point is negligible.
-/

namespace TagAudit

/-- The whole part of a number, toward zero; zero for the numbers that are not finite. -/
def Binary64.truncated : Binary64 → Int
  | nan | infinite _ => 0
  | finite negative m q _ => signed negative (m * twoPow q.toNat / twoPow (-q).toNat)

namespace Regex

/-- What lies below a ten-thousandth is no part of a fraction. -/
def isNegligible (x : Binary64) : Bool :=
  let least := Number.decimal 1 (-4)
  (Number.float x).lt least && (Number.float x.neg).lt least

/-- Numerator and denominator of a number, none for the undefined one; at most `fuel` reciprocals
are taken. -/
def fractionOf? : (fuel : Nat) → Binary64 → Except AnalysisError (Option (Int × Int))
  | _, .nan => .ok none
  | _, .infinite _ => .error .infiniteNumber
  | 0, _ => .error .endlessFraction
  | fuel + 1, x => do
    let whole := x.truncated
    let part := x.sub (.ofInt whole)
    if isNegligible part then return some (whole, 1)
    let some (below, above) ← fractionOf? fuel ((Binary64.ofInt 1).div part) | return none
    return some (whole * below + above, below)

/-- The number of reciprocals that are taken at most. -/
def maxReciprocals : Nat := 970

/-- The number that a text writes, as a decimal number or as a quotient of two of them. -/
def quotientOf? (s : List Char) : Option Binary64 :=
  match Text.splitAt (· == '/') s with
  | [number] => Binary64.ofText? number
  | [dividend, divisor] => do
    let dividend ← Binary64.ofText? dividend
    let divisor ← Binary64.ofText? divisor
    if (Number.float divisor).isZero then none else some (dividend.div divisor)
  | _ => none

/-- The text of the fraction that a name writes, if it writes one. -/
def fractionText? (name : List Char) : Except AnalysisError (Option String) := do
  let (sign, digits) := match name with
    | '-' :: rest => ("-", rest)
    | rest => ("", rest)
  let some number := quotientOf? digits | return none
  let some (numerator, denominator) ← fractionOf? maxReciprocals number | return none
  if denominator = 1 then return some s!"{sign}{numerator}"
  else return some s!"{sign}{numerator}/{denominator}"

/-- May the character be left out of a name? -/
def isNameBreak (c : Char) : Bool := c == ' ' || c == '-' || c == '_'

/-- A name in the spelling in which it is looked up. -/
def standardName (name : List Char) : Except AnalysisError String := do
  match ← fractionText? name with
  | some fraction => return fraction
  | none => return .ofList ((name.filter (!isNameBreak ·)).map Char.toUpper)

end Regex

end TagAudit
