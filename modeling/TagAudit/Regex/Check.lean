import TagAudit.AnalysisError
import TagAudit.Regex.Group
import TagAudit.Regex.Quantifier
import TagAudit.Regex.Spelling

/-!
# Checking regular expressions

A regular expression is read as alternatives of sequences of items with quantifiers. When all
groups are known, its references are resolved. The check reports the first fault, or none where
the expression is well formed.
-/

namespace TagAudit.Regex

/-- What a quantifier would apply to. -/
inductive Target
  /-- Nothing stands before. -/
  | nothing
  /-- An item stands before. -/
  | item
  /-- An item with its quantifier stands before. -/
  | quantified
  deriving DecidableEq, Repr

/-- A quantifier at a position needs an item before it. -/
def Target.mustBeItem (target : Target) (place : Nat) : Read Unit :=
  match target with
  | .nothing => failAt .nothingToRepeat place
  | .item => return
  | .quantified => failAt .multipleRepeat place

/-- Passes over the sign of a lazy or a possessive quantifier. -/
def skipSuffix : Read Unit := do
  let start ← remaining
  let sign ← next?
  if sign != some '?' && sign != some '+' then goTo start

/-- Reads a quantifier, or a brace that is text, and tells what stands before the next one. -/
def readQuantifier (first : Char) (target : Target) (place : Nat) : Read Target := do
  match ← if first = '\x7b' then readBraced else pure .counts with
  | .counts =>
    target.mustBeItem place
    skipSuffix
    return .quantified
  | .fuzziness =>
    if target != .item then failAt .noFuzzyTarget place
    return .quantified
  | .text => return .item

/-- Is the character the beginning of a quantifier? -/
def startsQuantifier (c : Char) : Bool := c == '?' || c == '*' || c == '+' || c == '\x7b'

/-- Reads an item outside of parentheses. -/
def readItem (first : Char) : Read Part := do
  if first = '\\' then
    match ← readEscape false with
    | .group reference => return ⟨false, [reference]⟩
    | _ => return .item
  else if first = '[' then
    readSet
    return .item
  else return .item

mutual

/-- Reads alternatives, with at most `fuel` steps. -/
def readAlternatives : (fuel : Nat) → Read Part
  | 0 => throw .noMatch
  | fuel + 1 => do
    let first ← readSequence fuel {} .nothing
    if ← accept ['|'] then return first ++ (← readAlternatives fuel)
    else return first

/-- Reads a sequence after some part of it, with at most `fuel` steps. -/
def readSequence : (fuel : Nat) → (before : Part) → (target : Target) → Read Part
  | 0, _, _ => throw .noMatch
  | fuel + 1, before, target => do
    let place ← position
    let start ← remaining
    match ← next? with
    | none => do goTo start; return before
    | some c =>
      if c = ')' || c = '|' then do goTo start; return before
      else if c = '(' then
        match ← readGroup (readAlternatives fuel) (readSequence fuel {} .nothing) with
        | none => readSequence fuel before target
        | some part => readSequence fuel (before ++ part) .item
      else if startsQuantifier c then
        let after ← readQuantifier c target place
        readSequence fuel (before ++ if after = .item then .item else {}) after
      else
        readSequence fuel (before ++ (← readItem c)) .item

end

/-- Is a number or a name the group of a reference, and which one? -/
def groupNumber? (reading : Reading) (reference : Reference) : Option Nat :=
  match digitsValue? reference.group.toList with
  | some number => some number
  | none =>
    match reading.groupIndex.lookup reference.group with
    | some number => some number
    | none =>
      if reference.kind = .condition ∧ reference.group = "DEFINE" then some 0 else none

/-- What is wrong with a reference when all groups are known. -/
def referenceFault? (reading : Reading) (reference : Reference) : Option Fault :=
  let isCall := reference.kind == .call
  match groupNumber? reading reference with
  | none => some (if isCall then .invalidGroupReference else .unknownGroup)
  | some number =>
    let least := if reference.kind = .back then 1 else 0
    if number < least || reading.groupCount < number then
      some (if isCall then .unknownGroup else .invalidGroupReference)
    else if isCall && number != 0 && 1 < reading.opened.count number then some .ambiguousGroup
    else none

/-- Reads a whole expression under some flags. -/
def readWhole (pattern : List Char) (flags : List Flag) : Except Stop (Part × Reading) :=
  let start : Reading :=
    { rest := pattern, length := pattern.length, globals := flags, flags := flags }
  let read : Read Part := do
    let part ← readAlternatives (4 * pattern.length + 8)
    let place ← position
    skip
    if !(← remaining).isEmpty then failAt .unbalancedParenthesis place
    return part
  read.run start

/-- The versions, of which at most one may be asked for. -/
def versions : List Flag := [.version0, .version1]

/-- The character encodings, of which at most one may be asked for. -/
def encodings : List Flag := [.ascii, .locale, .unicode]

/-- Are several of the flags set? -/
def severalOf (choices flags : List Flag) : Bool :=
  1 < (choices.filter (flags.contains ·)).length

/-- Reads a whole expression, again whenever it sets flags for all of it; so many times at
most. -/
def readWholeFrom (pattern : List Char) : (restarts : Nat) → (flags : List Flag) →
    Except Stop (Part × Reading)
  | 0, flags => readWhole pattern flags
  | restarts + 1, flags =>
    match readWhole pattern flags with
    | .error (.restart more) =>
      if severalOf versions more then .error (.failure .conflictingVersions)
      else readWholeFrom pattern restarts more
    | result => result

/-- The number of flags, each of which can make reading start again once. -/
def flagCount : Nat := 15

/-- The first fault of an expression in the checker's spelling, with its place, if there is
one. -/
def faultOf? (pattern : List Char) : Except AnalysisError (Option String) :=
  match readWholeFrom pattern flagCount [] with
  | .error (.fault fault place) => .ok (some (fault.describe pattern place))
  | .error (.failure cause) => .error cause
  | .error .noMatch | .error (.restart _) => .ok none
  | .ok (part, reading) =>
    if severalOf encodings reading.flags then .error .conflictingEncodings
    else .ok <| part.references.findSome? fun reference =>
      (referenceFault? reading reference).map (·.describe pattern reference.position)

/-- The first fault of an expression of a script, with its place in the checker's spelling, if
there is one. -/
def scriptFault? (pattern : String) : Except AnalysisError (Option String) :=
  faultOf? (spell pattern.toList)

end TagAudit.Regex
