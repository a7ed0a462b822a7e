import TagAudit.Json.Writer
import TagAudit.Text.Printable

/-!
# Values as plain text

The text that stands for a value where an identifier or a cell needs one. A string is its own
text; inside arrays and objects strings are quoted, by preference with single quotes, and
characters that cannot be shown are escaped by their code points.
-/

namespace TagAudit.Json

/-- A character inside `quote` marks. -/
def displayChar (quote c : Char) : List Char :=
  let n := c.toNat
  if c = quote ∨ c = '\\' then ['\\', c]
  else if c = '\n' then ['\\', 'n']
  else if c = '\r' then ['\\', 'r']
  else if c = '\t' then ['\\', 't']
  else if Text.isPrintable c then [c]
  else if n < 0x100 then '\\' :: 'x' :: hexText 2 n
  else if n < 0x10000 then '\\' :: 'u' :: hexText 4 n
  else '\\' :: 'U' :: hexText 8 n

/-- A string in quotes: single ones, unless it has those and no double ones. -/
def displayString (s : String) : List Char :=
  let quote := if s.toList.contains '\'' ∧ ¬ s.toList.contains '"' then '"' else '\''
  quote :: s.toList.flatMap (displayChar quote) ++ [quote]

mutual

/-- The text of a value inside another one. -/
def displayNested : Json → List Char
  | null => "None".toList
  | bool b => (if b then "True" else "False").toList
  | number n => n.text.toList
  | string s => displayString s
  | array xs => '[' :: joined [',', ' '] (displayItems xs) ++ [']']
  | object ms => '\x7b' :: joined [',', ' '] (displayMembers ms) ++ ['\x7d']

/-- The texts of the items of an array. -/
def displayItems : List Json → List (List Char)
  | [] => []
  | x :: xs => displayNested x :: displayItems xs

/-- The texts of the members of an object. -/
def displayMembers : List (String × Json) → List (List Char)
  | [] => []
  | (key, value) :: rest =>
    (displayString key ++ ':' :: ' ' :: displayNested value) :: displayMembers rest

end

/-- The text of a value. -/
def display : Json → String
  | string s => s
  | value => .ofList (displayNested value)

end TagAudit.Json
