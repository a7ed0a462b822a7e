import TagAudit.Binary64.Basic
import TagAudit.Text.Digit
import TagAudit.Text.Search

/-!
# Reading numbers

The number that a text writes: digits of any script, which may be set off by single underscores,
with a point and an exponent, or the name of a non-finite number; with a sign and with blanks
around it, though none of the control characters that separate records.
-/

namespace TagAudit.Binary64

/-- May the character stand around a number? The information separators may not, blank as they
are. -/
def isSurrounding (c : Char) : Bool := Text.isBlank c && !('\x1c' ≤ c && c ≤ '\x1f')

/-- May the character stand in a group of digits? -/
def isGroupChar (c : Char) : Bool := Text.isDigit c || c == '_'

/-- Are the underscores of a group of digits single and between digits? -/
def isSetOff : List Char → Bool
  | [] => true
  | '_' :: _ => false
  | [_] => true
  | _ :: '_' :: rest => !rest.isEmpty && isSetOff rest
  | _ :: rest => isSetOff rest

/-- The digits of the group that begins a text, and the text after it. -/
def digitGroup? (s : List Char) : Option (List Char × List Char) :=
  let group := s.takeWhile isGroupChar
  if isSetOff group then some (group.filter (· != '_'), s.drop group.length) else none

/-- The exponent that makes up the rest of a text, zero where nothing is left. -/
def exponentOf? : List Char → Option Int
  | [] => some 0
  | marker :: rest => do
    guard (marker == 'e' || marker == 'E')
    let (negative, rest) := match rest with
      | '-' :: rest => (true, rest)
      | '+' :: rest => (false, rest)
      | rest => (false, rest)
    let (digits, rest) ← digitGroup? rest
    guard (!digits.isEmpty && rest.isEmpty)
    let magnitude ← Text.numeral? 0 digits
    return if negative then -(magnitude : Int) else magnitude

/-- The number of the given sign that digits write. -/
def unsigned? (negative : Bool) (s : List Char) : Option Binary64 := do
  let (whole, rest) ← digitGroup? s
  let (fraction, rest) ← match rest with
    | '.' :: rest => digitGroup? rest
    | rest => some ([], rest)
  guard (!(whole.isEmpty && fraction.isEmpty))
  let exponent ← exponentOf? rest
  let coefficient ← Text.numeral? 0 (whole ++ fraction)
  return ofDecimal negative coefficient (exponent - fraction.length)

/-- The number that a text writes. -/
def ofText? (s : List Char) : Option Binary64 :=
  let trimmed := Text.trimEnd isSurrounding (s.dropWhile isSurrounding)
  let (negative, rest) := match trimmed with
    | '-' :: rest => (true, rest)
    | '+' :: rest => (false, rest)
    | rest => (false, rest)
  let name := String.ofList (rest.map Char.toLower)
  if name = "nan" then some nan
  else if name = "inf" ∨ name = "infinity" then some (infinite negative)
  else unsigned? negative rest

end TagAudit.Binary64
