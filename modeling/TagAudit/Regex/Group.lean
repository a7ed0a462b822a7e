import TagAudit.Regex.Reader
import TagAudit.Text.Letter

/-!
# Groups and flags

What may stand between parentheses: groups with and without a name, looks ahead and behind,
conditions, calls of groups, comments, verbs and flags. The readers of the inner expressions are
given as parameters.
-/

namespace TagAudit.Regex

/-- A part of an expression: whether it is empty, and its references in the order of the text. -/
structure Part where
  isEmpty : Bool := true
  references : List Reference := []
  deriving DecidableEq, Repr

namespace Part

/-- A part that is not empty and refers to no group. -/
def item : Part := ⟨false, []⟩

/-- A reference. -/
def reference (kind : ReferenceKind) (group : String) (position : Nat) : Part :=
  ⟨false, [⟨kind, group, position⟩]⟩

/-- Two parts together. -/
def append (first second : Part) : Part :=
  ⟨first.isEmpty && second.isEmpty, first.references ++ second.references⟩

instance : Append Part := ⟨append⟩

/-- A part that counts as something even where it takes nothing. -/
def filled (part : Part) : Part := { part with isEmpty := false }

end Part

/-- Reads an inner expression and its closing parenthesis; flags set inside end there. -/
def enclosed (inner : Read Part) : Read Part := do
  let flags := (← get).flags
  let part ← inner
  expect ")"
  modify fun reading => { reading with flags }
  return part

/-- Reads a group that takes what it finds. -/
def readCapturing (inner : Read Part) : Read Part := do
  openGroup none
  let part ← enclosed inner
  closeGroup
  return part.filled

/-- Reads a group with a name, from the name on. -/
def readNamed (inner : Read Part) : Read Part := do
  let name ← groupName false
  openGroup (some name)
  expect ">"
  let part ← enclosed inner
  closeGroup
  return part.filled

/-- Reads the name of a group that is called, for a call at a position. -/
def readNamedCall (place : Nat) : Read Part := do
  let name ← groupName false
  expect ")"
  return .reference .call name place

/-- Reads what follows the letter of named groups and references. -/
def readNaming (inner : Read Part) : Read Part := do
  let place ← position
  match ← next? with
  | some '<' => readNamed inner
  | some '=' =>
    let name ← groupName true
    expect ")"
    if ← isOpenGroup name then failAt .openGroup place
    return .reference .back name place
  | some '>' | some '&' => readNamedCall place
  | _ => failAt .unknownExtension place

/-- The text from the end of a comment on; a backslash keeps the next character in the comment. -/
def afterComment : List Char → List Char
  | '\\' :: _ :: rest => afterComment rest
  | ['\\'] => []
  | ')' :: rest => ')' :: rest
  | _ :: rest => afterComment rest
  | [] => []

/-- Reads one or two branches and the closing parenthesis. -/
def readBranches (branch : Read Part) : Read (Part × Part) := do
  let first ← branch
  let second ← if ← accept ['|'] then branch else pure {}
  expect ")"
  return (first, second)

/-- Reads a condition on what stands in the text, and its branches. All is empty where the second
branch is. -/
def readLookCondition (inner branch : Read Part) : Read Part := do
  let condition ← enclosed inner
  let (first, second) ← readBranches branch
  let whole := condition ++ first
  return { whole ++ second with isEmpty := whole.isEmpty || second.isEmpty }

/-- Reads a condition and its branches. A condition on a group with empty branches is nothing. -/
def readConditional (inner branch : Read Part) : Read Part := do
  let flags := (← get).flags
  let place ← position
  let start ← remaining
  if (← next?) = some '?' then
    let sign ← next?
    let sign ← if sign = some '<' then next? else pure sign
    if sign = some '=' || sign = some '!' then readLookCondition inner branch
    else failAt .noLookaround place
  else
    goTo start
    let group ← groupName true
    expect ")"
    let (first, second) ← readBranches branch
    modify fun reading => { reading with flags }
    if first.isEmpty && second.isEmpty then return {}
    else return .reference .condition group place ++ first ++ second

/-- Reads branches whose groups are numbered alike; `most` is the highest number of a branch. At
most `fuel` branches are read. -/
def readAlikeBranches (branch : Read Part) : (fuel : Nat) → (initial most : Nat) → Read Part
  | 0, _, _ => throw .noMatch
  | fuel + 1, initial, most => do
    modify fun reading => { reading with groupCount := initial }
    let part ← branch
    let most := max most (← get).groupCount
    if ← accept ['|'] then return part ++ (← readAlikeBranches branch fuel initial most)
    modify fun reading => { reading with groupCount := most }
    return part

/-- Reads letters of flags, at most `fuel` of them. -/
def readFlagLetters : (fuel : Nat) → Read (List Flag)
  | 0 => return []
  | fuel + 1 => do
    let start ← remaining
    let flag : Option Flag ← match ← next? with
      | some 'V' => do
        match ← next? with
        | some '0' => pure (some .version0)
        | some '1' => pure (some .version1)
        | _ => pure none
      | some c => pure (Flag.ofLetter? c)
      | none => pure none
    match flag with
    | some flag => return flag :: (← readFlagLetters fuel)
    | none => do goTo start; return []

/-- Changes the flags in force. -/
def switchFlags (on off : List Flag) : Read Unit :=
  modify fun reading =>
    { reading with flags := (reading.flags ++ on).filter (!off.contains ·) }

/-- Reads flags, which stand alone or hold for an inner expression. -/
def readFlags (inner : Read Part) : Read (Option Part) := do
  let most := (← remaining).length
  let on ← readFlagLetters most
  let off ← if ← accept ['-'] then do
      let off ← readFlagLetters most
      if off.isEmpty then failHere .noFlagsOff
      pure off
    else pure []
  if off.any (·.isGlobal) then failHere .globalFlagOff
  if on.any (off.contains ·) then failHere .flagOnAndOff
  let globals := (← get).globals
  let fresh := on.filter fun flag => flag.isGlobal && !globals.contains flag
  if !fresh.isEmpty then throw (.restart (globals ++ fresh))
  let on := on.filter (!·.isGlobal)
  if ← accept [':'] then
    return some (← enclosed do
      switchFlags on off
      inner)
  else if ← accept [')'] then
    switchFlags on off
    return none
  else failHere .unknownExtension

/-- Reads what follows an opening parenthesis and a question mark; nothing is left of comments and
of flags that stand alone. -/
def readExtension (inner branch : Read Part) : Read (Option Part) := do
  let place ← position
  let start ← remaining
  match ← nextPlain? with
  | some '<' =>
    let start ← remaining
    let sign ← next?
    if sign = some '=' then return some (← enclosed inner)
    else if sign = some '!' then return some (← enclosed inner).filled
    else do
      goTo start
      return some (← readNamed inner)
  | some '=' | some '>' => return some (← enclosed inner)
  | some '!' => return some (← enclosed inner).filled
  | some 'P' => return some (← readNaming inner)
  | some '#' =>
    goTo (afterComment (← remaining))
    expect ")"
    return none
  | some '(' => return some (← readConditional inner branch)
  | some '|' =>
    let count := (← get).groupCount
    let part ← readAlikeBranches branch ((← remaining).length + 1) count count
    expect ")"
    return some part
  | some '&' => return some (← readNamedCall place)
  | some c =>
    if c = 'R' || c.isDigit then
      let digits ← if c = 'R' then pure ['0'] else do pure (c :: (← takeDigits))
      expect ")"
      return some (.reference .call (.ofList digits) place)
    else do
      goTo start
      readFlags inner
  | none => do
    goTo start
    readFlags inner

/-- The words that stand for verbs. -/
def verbs : List String := ["FAIL", "F", "PRUNE", "SKIP"]

/-- Reads what follows an opening parenthesis. -/
def readGroup (inner branch : Read Part) : Read (Option Part) := do
  let start ← remaining
  match ← nextPlain? with
  | some '?' => readExtension inner branch
  | some '*' =>
    let place ← position
    let word ← takeWord
    if word.head?.any Text.isLetter then
      if !verbs.contains (.ofList word) then failAt .unknownVerb place
      expect ")"
      return some .item
    goTo start
    return some (← readCapturing inner)
  | _ =>
    goTo start
    return some (← readCapturing inner)

end TagAudit.Regex
