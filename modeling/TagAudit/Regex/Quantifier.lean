import TagAudit.Regex.CharacterSet

/-!
# Quantifiers in braces

A brace may open the counts of a repetition, or else the costs at which an approximate finding is
accepted; where it opens neither it is text. Counts are digits, at most two numbers. Costs bound
the number of errors of a kind, or a weighted sum of them.
-/

namespace TagAudit.Regex

/-- Counts from here on are too big. -/
def countLimit : Nat := 4294967295

/-- The number that the digits of a count write, if there are any. -/
def countOf? (digits : List Char) : Read (Option Nat) :=
  if digits.isEmpty then return none else some <$> numberOf digits

/-- Reads the counts of a repetition after the opening brace, if they are there. -/
def readCounts : Read Unit := do
  let place ← position
  let digits ← takeDigits
  let (least, most) ← if ← accept [','] then do
      let more ← takeDigits
      pure ((← countOf? digits).getD 0, ← countOf? more)
    else do
      let some count ← countOf? digits | throw .noMatch
      pure (count, some count)
  if !(← accept ['\x7d']) then throw .noMatch
  if countLimit ≤ least || most.any (countLimit ≤ ·) then failAt .countTooBig place
  if most.any (· < least) then failAt .crossedCounts place

/-- The costs that have been bounded so far. -/
structure Costs where
  /-- The letters of the errors with bounds of their own. -/
  kinds : List Char := []
  /-- Is there a bound of a weighted sum? -/
  weighted : Bool := false

/-- Reads a comparison sign, and tells whether it is strict; none where there is none. -/
def readComparison : Read (Option Bool) := do
  if ← accept ['<', '='] then return some false
  else if ← accept ['<'] then return some true
  else return none

/-- Reads the bound of a cost. -/
def readCostLimit : Read Int := do
  let place ← position
  let digits ← takeDigits
  if digits.isEmpty || maxNumberDigits < digits.length then failAt .badFuzzyCost place
  return ← numberOf digits

/-- Adds the letter of an error that has no bound yet. -/
def Costs.insert (costs : Costs) (letter : Option Char) : Read Costs :=
  match letter with
  | none => throw .noMatch
  | some c =>
    if ['d', 'e', 'i', 's'].contains c && !costs.kinds.contains c then
      return { costs with kinds := c :: costs.kinds }
    else throw .noMatch

/-- Reads a bound for one kind of errors: a letter with perhaps a limit after it, or a letter
between two limits. -/
def readKindBound (costs : Costs) : Read Costs := do
  let start ← remaining
  match ← next? with
  | none => throw .noMatch
  | some c =>
    if c.isAlpha then
      let costs ← costs.insert (some c)
      if let some strict ← readComparison then
        let place ← position
        let most ← readCostLimit
        if most < (if strict then 1 else 0) then failAt .badFuzzyCost place
      return costs
    else if c.isDigit then
      goTo start
      let least ← readCostLimit
      let some strictBelow ← readComparison | throw .noMatch
      let costs ← costs.insert (← next?)
      let some strictAbove ← readComparison | throw .noMatch
      let place ← position
      let most ← readCostLimit
      let margin := (if strictBelow then 1 else 0) + (if strictAbove then 1 else 0)
      if most < least + margin then failAt .badFuzzyCost place
      return costs
    else throw .noMatch

/-- Reads the terms of a weighted sum, given the letters that have a weight already. -/
def readCostTerms : (fuel : Nat) → (letters : List Char) → Read Unit
  | 0, _ => throw .noMatch
  | fuel + 1, letters => do
    let weight ← takeDigits
    let some c ← next? | throw .noMatch
    if !"dis".toList.contains c then throw .noMatch
    if letters.contains c then failHere .repeatedFuzzyCost
    let _ ← countOf? weight
    if ← accept ['+'] then readCostTerms fuel (c :: letters)

/-- Reads a bound for a weighted sum of errors. -/
def readWeightedBound (costs : Costs) : Read Costs := do
  if costs.weighted then failHere .secondCostEquation
  readCostTerms 4 []
  let some strict ← readComparison | throw .noMatch
  let some most ← countOf? (← takeDigits) | throw (.failure .unreadableNumber)
  if most < (if strict then 1 else 0) then failHere .badFuzzyCost
  return { costs with weighted := true }

/-- Reads bounds separated by commas, at most `fuel` of them. -/
def readBounds : (fuel : Nat) → Costs → Read Unit
  | 0, _ => throw .noMatch
  | fuel + 1, costs => do
    let costs ← orElse (readKindBound costs) (readWeightedBound costs)
    if ← accept [','] then readBounds fuel costs

/-- Reads the characters that an error may be about. -/
def readErrorSet : Read Unit := do
  let place ← position
  match ← next? with
  | none => failAt .noTestSet place
  | some '\\' => discard (readEscape false)
  | some '[' => readSet
  | some c => if "()|?*+\x7b^$#".toList.contains c then failAt .noTestSet place

/-- Reads the costs of an approximate finding after the opening brace, if they are there. -/
def readFuzziness : Read Unit := do
  readBounds ((← remaining).length + 1) {}
  if ← accept [':'] then readErrorSet
  if !(← accept ['\x7d']) then failHere .noFuzzyEnd

/-- What a brace has opened. -/
inductive Braced
  | counts
  | fuzziness
  | text
  deriving DecidableEq, Repr

/-- Reads what a brace opens, after the brace. -/
def readBraced : Read Braced :=
  orElse (do readCounts; return .counts) <|
    orElse (do readFuzziness; return .fuzziness) (return .text)

end TagAudit.Regex
