import TagAudit.Regex.Reader

/-!
# Escapes

An escape stands for a character, for a class of characters or a place, or outside of sets for
what a group has taken.
-/

namespace TagAudit.Regex

/-- What an escape or a member of a set stands for. -/
inductive Atom
  /-- A character, by its code. -/
  | char (code : Nat)
  /-- Every character but one, by its code. -/
  | notChar (code : Nat)
  /-- A class of characters, or a place in the text. -/
  | cls
  /-- What a group has taken. -/
  | group (reference : Reference)
  deriving DecidableEq, Repr

/-- The code of a letter that is the escape of a control character. -/
def controlCode? : Char → Option Nat
  | 'a' => some 7
  | 'b' => some 8
  | 'f' => some 12
  | 'n' => some 10
  | 'r' => some 13
  | 't' => some 9
  | 'v' => some 11
  | _ => none

/-- Is the character a hexadecimal digit? -/
def isHexDigit (c : Char) : Bool :=
  c.isDigit || ('a' ≤ c && c ≤ 'f') || ('A' ≤ c && c ≤ 'F')

/-- The value of a hexadecimal digit. -/
def hexValue (c : Char) : Nat :=
  if c.isDigit then c.toNat - 48 else if 'a' ≤ c then c.toNat - 87 else c.toNat - 55

/-- Is the character an octal digit? -/
def isOctalDigit (c : Char) : Bool := '0' ≤ c && c ≤ '7'

/-- The number that digits of a base write. -/
def valueOf (base : Nat) (digits : List Char) : Nat :=
  digits.foldl (fun value c => base * value + hexValue c) 0

/-- Reads as many hexadecimal digits as there are still to come. -/
def readHexDigits (letter : Char) (place : Nat) (digits : List Char) :
    (toCome : Nat) → Read (List Char)
  | 0 => return digits
  | toCome + 1 => do
    match ← next? with
    | some c =>
      if isHexDigit c then readHexDigits letter place (digits ++ [c]) toCome
      else failAt (.incompleteEscape (letter :: digits)) place
    | none => failAt (.incompleteEscape (letter :: digits)) place

/-- Reads digits of a class, so many at most. -/
def readDigits (p : Char → Bool) : (most : Nat) → Read (List Char)
  | 0 => return []
  | most + 1 => do
    let start ← remaining
    match ← next? with
    | some c =>
      if p c then return c :: (← readDigits p most)
      else do goTo start; return []
    | none => do goTo start; return []

/-- Reads the rest of an escape that begins with a digit: up to three octal digits write a
character, in a set and after a zero always, and elsewhere where there are three of them; other
digits, at most two, are the number of a group. -/
def readNumericEscape (inSet : Bool) (first : Char) : Read Atom := do
  if inSet || first = '0' then
    let digits := first :: (← readDigits isOctalDigit 2)
    if isOctalDigit first then return .char (valueOf 8 digits)
    else failHere (.badEscape first)
  else
    let digits := first :: (← readDigits Char.isDigit 1)
    let start ← remaining
    let octal ← if digits.length = 2 ∧ digits.all isOctalDigit then readDigits isOctalDigit 1
      else pure []
    if octal.isEmpty then
      goTo start
      let group := String.ofList digits
      if ← isOpenGroup group then failHere .openGroup
      return .group ⟨.back, group, ← position⟩
    else return .char (valueOf 8 (digits ++ octal))

/-- Reads an escape after its backslash. -/
def readEscape (inSet : Bool) : Read Atom := do
  match ← nextPlain? with
  | none => failHere .escapeAtEnd
  | some c =>
    if c = 'x' then return .char (valueOf 16 (← readHexDigits c (← position) [] 2))
    else if c = 'u' then return .char (valueOf 16 (← readHexDigits c (← position) [] 4))
    else if ['d', 'D', 's', 'S', 'w', 'W'].contains c then return .cls
    else if !inSet && (c = 'b' || c = 'B') then return .cls
    else if c.isAlpha then
      match controlCode? c with
      | some code => return .char code
      | none => failHere (.badEscape c)
    else if c.isDigit then readNumericEscape inSet c
    else return .char c.toNat

end TagAudit.Regex
