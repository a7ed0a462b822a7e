import TagAudit.AnalysisError
import TagAudit.Text.Blank
import TagAudit.Text.Digit
import TagAudit.Text.Identifier

/-!
# Reading regular expressions

The state of the checker while it reads a regular expression: the text that is left, the flags in
force and the groups opened so far; and the steps by which it reads characters, words and names.
In verbose mode blanks and comments are passed over.
-/

namespace TagAudit.Regex

/-- The flags that an expression can set. -/
inductive Flag
  | ascii
  | bestMatch
  | enhanceMatch
  | fullCase
  | ignoreCase
  | locale
  | multiline
  | posix
  | reverse
  | dotAll
  | unicode
  | version0
  | version1
  | word
  | verbose
  deriving DecidableEq, Repr

/-- The letters of the flags; versions have a digit after their letter. -/
def Flag.ofLetter? : Char → Option Flag
  | 'a' => some ascii
  | 'b' => some bestMatch
  | 'e' => some enhanceMatch
  | 'f' => some fullCase
  | 'i' => some ignoreCase
  | 'L' => some locale
  | 'm' => some multiline
  | 'p' => some posix
  | 'r' => some reverse
  | 's' => some dotAll
  | 'u' => some unicode
  | 'w' => some word
  | 'x' => some verbose
  | _ => none

/-- Does a flag hold for the whole expression wherever it is set? -/
def Flag.isGlobal : Flag → Bool
  | version0 | version1 | bestMatch | enhanceMatch | posix | reverse => true
  | _ => false

/-- What is wrong with an expression. -/
inductive Fault
  | missing (text : String)
  | unbalancedParenthesis
  | unterminatedSet
  | badRange
  | nothingToRepeat
  | multipleRepeat
  | crossedCounts
  | countTooBig
  | escapeAtEnd
  | badEscape (letter : Char)
  | incompleteEscape (text : List Char)
  | invalidGroupReference
  | unknownGroup
  | ambiguousGroup
  | openGroup
  | missingGroupName
  | badGroupName
  | unknownExtension
  | unknownVerb
  | unknownProperty
  | unknownPropertyValue
  | noFlagsOff
  | globalFlagOff
  | flagOnAndOff
  | noLookaround
  | noFuzzyEnd
  | noFuzzyTarget
  | badFuzzyCost
  | repeatedFuzzyCost
  | secondCostEquation
  | noTestSet
  deriving DecidableEq, Repr

/-- The words for a fault. -/
def Fault.message : Fault → String
  | missing text => s!"missing {text}"
  | unbalancedParenthesis => "unbalanced parenthesis"
  | unterminatedSet => "unterminated character set"
  | badRange => "bad character range"
  | nothingToRepeat => "nothing to repeat"
  | multipleRepeat => "multiple repeat"
  | crossedCounts => "min repeat greater than max repeat"
  | countTooBig => "repeat count too big"
  | escapeAtEnd => "bad escape (end of pattern)"
  | badEscape letter => "bad escape \\" ++ letter.toString
  | incompleteEscape text => "incomplete escape \\" ++ String.ofList text
  | invalidGroupReference => "invalid group reference"
  | unknownGroup => "unknown group"
  | ambiguousGroup => "ambiguous group reference"
  | openGroup => "cannot refer to an open group"
  | missingGroupName => "missing group name"
  | badGroupName => "bad character in group name"
  | unknownExtension => "unknown extension"
  | unknownVerb => "unknown verb"
  | unknownProperty => "unknown property"
  | unknownPropertyValue => "unknown property value"
  | noFlagsOff => "bad inline flags: no flags after '-'"
  | globalFlagOff => "bad inline flags: cannot turn off global flag"
  | flagOnAndOff => "bad inline flags: flag turned on and off"
  | noLookaround => "expected lookaround conditional"
  | noFuzzyEnd => "expected \x7d"
  | noFuzzyTarget => "nothing for fuzzy constraint"
  | badFuzzyCost => "bad fuzzy cost limit"
  | repeatedFuzzyCost => "repeated fuzzy cost"
  | secondCostEquation => "more than one cost equation"
  | noTestSet => "expected character set"

/-- The words for a fault with its place in a pattern; in a pattern of several lines with line and
column too. -/
def Fault.describe (fault : Fault) (pattern : List Char) (position : Nat) : String :=
  let place := s!"{fault.message} at position {position}"
  if pattern.contains '\n' then
    let before := pattern.take position
    let line := before.count '\n' + 1
    let column := (before.reverse.takeWhile (· != '\n')).length + 1
    s!"{place} (line {line}, column {column})"
  else place

/-- Why reading stops. -/
inductive Stop
  /-- The expression is faulty at a position. -/
  | fault (fault : Fault) (position : Nat)
  /-- The text does not form what was looked for; something else may be tried. -/
  | noMatch
  /-- Flags for the whole expression were found, so reading starts again with them. -/
  | restart (flags : List Flag)
  /-- The expression cannot be checked at all. -/
  | failure (cause : AnalysisError)
  deriving Repr

/-- A reference to a group, to be resolved when all groups are known. -/
inductive ReferenceKind
  | back
  | condition
  | call
  deriving DecidableEq, Repr

/-- A reference to a group by name or number, and where it stands. -/
structure Reference where
  kind : ReferenceKind
  group : String
  position : Nat
  deriving DecidableEq, Repr

/-- The state of reading. -/
structure Reading where
  /-- The text that is left. -/
  rest : List Char
  /-- The length of the whole text. -/
  length : Nat
  /-- The flags that hold for the whole expression. -/
  globals : List Flag
  /-- The flags in force. -/
  flags : List Flag
  groupCount : Nat := 0
  /-- The numbers of the named groups. -/
  groupIndex : List (String × Nat) := []
  /-- The groups that are open, the innermost first; none for a group inside one of its name. -/
  openGroups : List (Option Nat) := []
  /-- The numbers of all groups opened so far. -/
  opened : List Nat := []
  deriving Repr

/-- Reading with a state, which may stop. -/
abbrev Read := StateT Reading (Except Stop)

/-- The position of the text that is left. -/
def position : Read Nat := do
  let reading ← get
  return reading.length - reading.rest.length

/-- Reads in one way, or in another from the same state where the first finds no match. -/
def orElse {α : Type} (first second : Read α) : Read α := fun reading =>
  match first reading with
  | .error .noMatch => second reading
  | result => result

/-- Stops with a fault at a position. -/
def failAt {α : Type} (fault : Fault) (position : Nat) : Read α :=
  throw (.fault fault position)

/-- Stops with a fault at the current position. -/
def failHere {α : Type} (fault : Fault) : Read α := do failAt fault (← position)

/-- The text that is left. -/
def remaining : Read (List Char) := do return (← get).rest

/-- Goes to a place in the text. -/
def goTo (rest : List Char) : Read Unit := modify fun reading => { reading with rest }

/-- Is a flag in force? -/
def hasFlag (flag : Flag) : Read Bool := do return (← get).flags.contains flag

/-- The text after blanks and comments; an unfinished comment reaches to the end. At most `fuel`
steps are taken. -/
def skipIgnored : (fuel : Nat) → List Char → List Char
  | 0, s => s
  | fuel + 1, c :: rest =>
    if Text.isBlank c then skipIgnored fuel rest
    else if c = '#' then skipIgnored fuel (rest.dropWhile (· != '\n'))
    else c :: rest
  | _ + 1, [] => []

/-- Passes over blanks and comments in verbose mode. -/
def skip : Read Unit := do
  if ← hasFlag .verbose then
    let rest ← remaining
    goTo (skipIgnored rest.length rest)

/-- Reads with blanks and comments taken for text. -/
def literally {α : Type} (read : Read α) : Read α := do
  let flags := (← get).flags
  modify fun reading => { reading with flags := flags.filter (· != .verbose) }
  let result ← read
  modify fun reading => { reading with flags }
  return result

/-- The next character as it stands, if any. -/
def nextPlain? : Read (Option Char) := do
  match ← remaining with
  | [] => return none
  | c :: rest =>
    goTo rest
    return some c

/-- The next character, if any. -/
def next? : Read (Option Char) := do
  skip
  nextPlain?

/-- Reads a text if it stands next, each of its characters perhaps after ignored text. -/
def accept (text : List Char) : Read Bool := do
  let start ← remaining
  for c in text do
    skip
    match ← remaining with
    | d :: rest => if c = d then goTo rest else do goTo start; return false
    | [] => do goTo start; return false
  return true

/-- Reads a text that must stand next. -/
def expect (text : String) : Read Unit := do
  if !(← accept text.toList) then failHere (.missing text)

/-- Reads characters while they satisfy `p`, at most `fuel` of them. -/
def takeWhileFrom (p : Char → Bool) : (fuel : Nat) → Read (List Char)
  | 0 => return []
  | fuel + 1 => do
    skip
    match ← remaining with
    | c :: rest =>
      if p c then
        goTo rest
        return c :: (← takeWhileFrom p fuel)
      else return []
    | [] => return []

/-- Reads characters while they satisfy `p`. -/
def takeWhile (p : Char → Bool) : Read (List Char) := do takeWhileFrom p (← remaining).length

/-- Reads the digits of a count, perhaps none. -/
def takeDigits : Read (List Char) := takeWhile Char.isDigit

/-- Reads the text up to a closing parenthesis or angle bracket. -/
def takeWord : Read (List Char) := takeWhile fun c => c != ')' && c != '>'

/-- The longest number that is read. -/
def maxNumberDigits : Nat := 4300

/-- The number that digits of any script write, if it is not too long. -/
def digitsValue? (digits : List Char) : Option Nat :=
  if digits.length ≤ maxNumberDigits then Text.numeral? 0 digits else none

/-- The number that digits of any script write, which must be one that is read. -/
def numberOf (digits : List Char) : Read Nat :=
  match digitsValue? digits with
  | some n => return n
  | none => throw (.failure .unreadableNumber)

/-- Reads the name of a group, or its number where that is allowed. -/
def groupName (numeric : Bool) : Read String := do
  let name ← takeWord
  if name.isEmpty then failHere .missingGroupName
  if name.all Text.isDigitForm then
    if !numeric || (← numberOf name) < 1 then failHere .badGroupName
  else if !Text.isIdentifier name then failHere .badGroupName
  return .ofList name

/-- The number that a group is given: that of its name, or the next one. -/
def numberForGroup (reading : Reading) (name : Option String) : Nat × Reading :=
  match name with
  | none =>
    let count := reading.groupCount + 1
    (count, { reading with groupCount := count })
  | some name =>
    match reading.groupIndex.lookup name with
    | some number => (number, reading)
    | none =>
      let taken := reading.groupIndex.map (·.2)
      let count := nextFree taken (taken.length + 1) (reading.groupCount + 1)
      (count, { reading with
        groupCount := count
        groupIndex := reading.groupIndex ++ [(name, count)] })
where
  /-- The first number from `n` on that is not taken. -/
  nextFree (taken : List Nat) : (fuel : Nat) → (n : Nat) → Nat
    | 0, n => n
    | fuel + 1, n => if taken.contains n then nextFree taken fuel (n + 1) else n

/-- Opens a group. A group inside one of its own name stays without a number. -/
def openGroup (name : Option String) : Read Unit := do
  let (number, reading) := numberForGroup (← get) name
  if reading.openGroups.contains (some number) then
    set { reading with openGroups := none :: reading.openGroups }
  else
    set { reading with
      openGroups := some number :: reading.openGroups
      opened := reading.opened ++ [number] }

/-- Closes the innermost group. -/
def closeGroup : Read Unit :=
  modify fun reading => { reading with openGroups := reading.openGroups.tail }

/-- Is a group open, given by name or number? Later versions take no notice of it. -/
def isOpenGroup (group : String) : Read Bool := do
  let reading ← get
  if reading.flags.contains .version1 then return false
  match Text.numeral? 0 group.toList with
  | some number => return reading.openGroups.contains (some number)
  | none =>
    match reading.groupIndex.lookup group with
    | some number => return reading.openGroups.contains (some number)
    | none => return false

end TagAudit.Regex
