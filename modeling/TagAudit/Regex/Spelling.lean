import TagAudit.Json.Writer
import TagAudit.Text.LetterCase

/-!
# Spelling of regular expressions

Regular expressions of scripts are spelled anew for the checker: groups and references by name get
the checker's spelling, control escapes become hexadecimal ones, and a backslash before a letter
that means nothing special is dropped. Escapes are read one at a time, so an escaped backslash
stands for itself.
-/

namespace TagAudit.Regex

/-- Spells the beginnings of named groups. -/
def spellGroups : List Char → List Char
  | '(' :: '?' :: '<' :: rest =>
    if rest.head? = some '=' ∨ rest.head? = some '!' then '(' :: '?' :: '<' :: spellGroups rest
    else '(' :: '?' :: 'P' :: '<' :: spellGroups rest
  | c :: rest => c :: spellGroups rest
  | [] => []

/-- May the character start a name of ASCII letters, digits and underscores? -/
def startsName (c : Char) : Bool := c.isAlpha || c == '_'

/-- The name before a closing angle bracket, and the text after the bracket. -/
def angledName? (s : List Char) : Option (List Char × List Char) :=
  let name := s.takeWhile fun c => c.isAlphanum || c == '_'
  match s.drop name.length with
  | '>' :: after => if name.head?.any startsName then some (name, after) else none
  | _ => none

/-- Spells the references to named groups; at most `fuel` characters and references are read. -/
def spellReferencesFrom : (fuel : Nat) → List Char → List Char
  | 0, s => s
  | _, [] => []
  | fuel + 1, c :: rest =>
    let plain := c :: spellReferencesFrom fuel rest
    match c, rest with
    | '\\', 'k' :: '<' :: inside =>
      match angledName? inside with
      | some (name, after) =>
        "(?P=".toList ++ name ++ ')' :: spellReferencesFrom fuel after
      | none => plain
    | _, _ => plain

/-- Spells the references to named groups. -/
def spellReferences (s : List Char) : List Char := spellReferencesFrom s.length s

/-- The letters whose escapes mean the same to scripts and to the checker. -/
def sharedEscapes : List Char :=
  ['b', 'B', 'd', 'D', 'f', 'n', 'r', 's', 'S', 't', 'v', 'w', 'W', 'u', 'x']

/-- Does a character count as a letter in an escape, by its lower case? -/
def isEscapeLetter (c : Char) : Bool :=
  match Text.lower [c] with
  | [] => false
  | first :: rest => 'a' ≤ first && (first < 'z' || (first == 'z' && rest.isEmpty))

/-- An escape with one character after the backslash. -/
def spellEscape (c : Char) : List Char :=
  if isEscapeLetter c && !sharedEscapes.contains c then [c] else ['\\', c]

/-- Spells the escapes. -/
def spellEscapes : List Char → List Char
  | [] => []
  | ['\\'] => ['\\']
  | '\\' :: 'c' :: letter :: rest =>
    if letter.isAlpha then
      '\\' :: 'x' :: Json.hexText 2 (letter.toNat % 32) ++ spellEscapes rest
    else spellEscape 'c' ++ spellEscapes (letter :: rest)
  | '\\' :: c :: rest => spellEscape c ++ spellEscapes rest
  | c :: rest => c :: spellEscapes rest

/-- The regular expression as the checker spells it. -/
def spell (pattern : List Char) : List Char :=
  spellEscapes (spellReferences (spellGroups pattern))

end TagAudit.Regex
