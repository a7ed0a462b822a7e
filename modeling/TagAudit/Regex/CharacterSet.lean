import TagAudit.Regex.Escape
import TagAudit.Regex.Property.Lookup

/-!
# Character sets

A set lists characters, classes and ranges of characters between brackets; its first member may be
any character, and blanks in it are text. In the second version sets may stand in sets, and two
signs of one kind join sets.
-/

namespace TagAudit.Regex

/-- The atom for everything outside of an atom. -/
def Atom.complement : Atom → Atom
  | char code => notChar code
  | notChar code => char code
  | other => other

/-- Does a text stand next? -/
def standsNext (text : List Char) : Read Bool := do
  let start ← remaining
  let found ← accept text
  goTo start
  return found

/-- May the character stand in the name of a property? -/
def isNameChar (c : Char) : Bool :=
  c.isAlphanum || c == ' ' || c == '&' || c == '_' || c == '-' || c == '.'

/-- May the character stand in the name of a value? -/
def isValueChar (c : Char) : Bool := isNameChar c || c == '/'

/-- A text without the blanks around it. -/
def trimSpaces (s : List Char) : List Char :=
  Text.trimEnd (· == ' ') (s.dropWhile (· == ' '))

/-- Reads the name of a class: a property and a value with a colon or an equals sign between
them, or one name alone, which counts as a value. -/
def readClassName : Read (List Char × List Char) := do
  let name ← takeWhile isNameChar
  let start ← remaining
  let sign ← next?
  if sign = some ':' || sign = some '=' then
    let value := trimSpaces (← takeWhile isValueChar)
    if !value.isEmpty then return (name, value)
  goTo start
  return ([], name)

/-- Reads a class by name, after its opening bracket and colon. -/
def readNamedClass : Read Atom := do
  let _ ← accept ['^']
  let (property, value) ← readClassName
  if !(← accept [':', ']']) then throw .noMatch
  match lookUpProperty property value with
  | .error cause => throw (.failure cause)
  | .ok .known => return .cls
  | .ok .unknownProperty => failHere .unknownProperty
  | .ok .unknownValue => failHere .unknownPropertyValue

/-- The signs that join sets, the loosest first. -/
def setOperators : List (List Char) := [['|', '|'], ['~', '~'], ['&', '&'], ['-', '-']]

/-- Reads operands with an operator between them, at most `fuel` of them. -/
def readJoined (operator : List Char) (operand : Read Atom) : (fuel : Nat) → Read Atom
  | 0 => throw .noMatch
  | fuel + 1 => do
    let first ← operand
    if ← accept operator then
      let _ ← readJoined operator operand fuel
      return .cls
    else return first

/-- Are the members of a set at their end? An operator ends them in the second version. -/
def atMembersEnd : Read Bool := do
  if ← standsNext [']'] then return true
  else if ← hasFlag .version1 then setOperators.anyM standsNext
  else return false

/-- Reads a member of a set, given how to read an item: an item, or a range between two
characters. A hyphen that ends the set, or that stands beside a class, is a character. -/
def readMember (item : Read Atom) : Read Atom := do
  match ← item with
  | .char least =>
    let afterItem ← remaining
    if !(← accept ['-']) then return .char least
    if ← hasFlag .version1 then
      if ← standsNext ['-'] then
        goTo afterItem
        return .char least
    if ← standsNext [']'] then return .cls
    match ← item with
    | .char most =>
      if most < least then failHere .badRange
      return if most = least then .char least else .cls
    | _ => return .cls
  | other => return other

mutual

/-- Reads a character, a class or, in the second version, a set in a set. -/
def readSetItem : (fuel : Nat) → Read Atom
  | 0 => throw .noMatch
  | fuel + 1 => do
    if ← accept ['\\'] then readEscape true
    else
      orElse (do if ← accept ['[', ':'] then readNamedClass else throw .noMatch) do
        let isNested ← if ← hasFlag .version1 then accept ['['] else pure false
        if isNested then
          let negative ← accept ['^']
          let inner ← readCombined fuel
          expect "]"
          return if negative then inner.complement else inner
        match ← next? with
        | some c => return .char c.toNat
        | none => failHere .unterminatedSet

/-- Reads the members of a set up to its closing bracket or an operator. -/
def readMembers : (fuel : Nat) → Read Atom
  | 0 => throw .noMatch
  | fuel + 1 => do
    let first ← readMember (readSetItem fuel)
    if ← atMembersEnd then return first
    else
      let _ ← readMembers fuel
      return .cls

/-- Reads sets that are joined by operators. -/
def readCombined : (fuel : Nat) → Read Atom
  | 0 => throw .noMatch
  | fuel + 1 =>
    setOperators.foldr (fun operator operand => readJoined operator operand fuel)
      (readMembers fuel)

end

/-- Reads a set after its opening bracket. -/
def readSet : Read Unit := literally do
  let _ ← accept ['^']
  let fuel := 3 * (← remaining).length + 8
  if ← hasFlag .version1 then discard (readCombined fuel) else discard (readMembers fuel)
  expect "]"

end TagAudit.Regex
