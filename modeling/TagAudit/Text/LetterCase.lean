import TagAudit.Text.LetterCase.Table

/-!
# Letter case

Lower, upper and title case of texts in any script. Within ASCII they are the usual maps; beyond
it some letters have an image of several characters, and a capital sigma is lowered to its final
form at the end of a word. Patterns that ignore case compare folded characters.
-/

namespace TagAudit.Text

namespace LetterCase

/-- The image of a code point under the first run that has it. -/
def imageIn (runs : List Run) (n : Nat) : Nat :=
  (runs.findSome? (·.image? n)).getD n

/-- Lower case of one character, away from any neighbours. -/
def lowerChar (c : Char) : List Char :=
  if c.toNat < 128 then [c.toLower]
  else if c = 'İ' then ['i', '\u0307']
  else [Char.ofNat (imageIn lowerRuns c.toNat)]

/-- Upper case of one character. -/
def upperChar (c : Char) : List Char :=
  if c.toNat < 128 then [c.toUpper]
  else match upperExpansions.lookup c.toNat with
    | some image => image.map Char.ofNat
    | none => [Char.ofNat (imageIn upperRuns c.toNat)]

/-- Title case of one character. -/
def titleChar (c : Char) : List Char :=
  if c.toNat < 128 then [c.toUpper]
  else match titleExpansions.lookup c.toNat with
    | some image => image.map Char.ofNat
    | none => match titleRuns.findSome? (·.image? c.toNat) with
      | some image => [Char.ofNat image]
      | none => upperChar c

/-- Is the nearest character that is not passed over a letter with case? -/
def nextIsCased (neighbours : List Char) : Bool :=
  match neighbours.dropWhile caseIgnorable.contains with
  | [] => false
  | c :: _ => cased.contains c

/-- Lower case of a character between the (reversed) text before it and the text after it. -/
def lowerAt (before : List Char) (c : Char) (after : List Char) : List Char :=
  if c = 'Σ' then
    if nextIsCased before && !nextIsCased after then ['ς'] else ['σ']
  else
    lowerChar c

/-- Lower case of a text that follows the reversed text `before`. -/
def lowerAfter (before : List Char) : List Char → List Char
  | [] => []
  | c :: rest => lowerAt before c rest ++ lowerAfter (c :: before) rest

/-- Title case of a text that follows the reversed text `before`: a letter after a cased letter
is lowered, any other takes its title form. -/
def titleAfter (before : List Char) : List Char → List Char
  | [] => []
  | c :: rest =>
    let inWord := match before with
      | [] => false
      | previous :: _ => cased.contains previous
    (if inWord then lowerAt before c rest else titleChar c) ++ titleAfter (c :: before) rest

end LetterCase

/-- Lower case of a text. -/
def lower (s : List Char) : List Char := LetterCase.lowerAfter [] s

/-- Upper case of a text. -/
def upper (s : List Char) : List Char := s.flatMap LetterCase.upperChar

/-- Title case of a text. -/
def title (s : List Char) : List Char := LetterCase.titleAfter [] s

/-- The representative of a character for comparisons with ASCII letters that ignore case: the
dotted and dotless i, the long s and the kelvin sign stand for the letters they resemble. -/
def fold (c : Char) : Char :=
  if c = 'İ' ∨ c = 'ı' then 'i'
  else if c = 'ſ' then 's'
  else if c = '\u212A' then 'k'
  else c.toLower

end TagAudit.Text

namespace String

/-- The text in lower case. -/
def lowered (s : String) : String := .ofList (TagAudit.Text.lower s.toList)

/-- The text in upper case. -/
def uppered (s : String) : String := .ofList (TagAudit.Text.upper s.toList)

/-- The text in title case. -/
def titled (s : String) : String := .ofList (TagAudit.Text.title s.toList)

end String
