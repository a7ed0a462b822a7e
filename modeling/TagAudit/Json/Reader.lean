import TagAudit.Json.Basic

/-!
# Reading JSON

A reader of JSON texts that also takes the three names of non-finite numbers. A text that breaks
the grammar is refused with the first fault and its place; an integer of more than 4300 digits is
refused as such, and so is half of a surrogate pair, which no text can hold: what follows it is not
read. Whole numbers are read exactly, all others to the nearest double.
-/

namespace TagAudit.Json

/-- What a text lacks or holds against the grammar. -/
inductive Fault
  | byteOrderMark
  | noValue
  | noPropertyName
  | noColon
  | noComma
  | unterminatedString
  | controlCharacter
  | badEscape
  | badUnicodeEscape
  | extraData
  deriving DecidableEq, Repr

/-- The words for a fault. -/
def Fault.message : Fault → String
  | byteOrderMark => "Unexpected UTF-8 BOM (decode using utf-8-sig)"
  | noValue => "Expecting value"
  | noPropertyName => "Expecting property name enclosed in double quotes"
  | noColon => "Expecting ':' delimiter"
  | noComma => "Expecting ',' delimiter"
  | unterminatedString => "Unterminated string starting at"
  | controlCharacter => "Invalid control character at"
  | badEscape => "Invalid \\escape"
  | badUnicodeEscape => "Invalid \\uXXXX escape"
  | extraData => "Extra data"

/-- Why a text is refused. -/
inductive ReadError
  /-- A fault before the last `remaining` characters of the text. -/
  | fault (fault : Fault) (remaining : Nat)
  /-- An integer with more digits than are read. -/
  | integerTooLong
  /-- Half of a surrogate pair without the other half. -/
  | loneSurrogate
  deriving DecidableEq, Repr

/-- The place after `offset` characters, as line, column and offset; lines and columns count
from one. -/
def placeText (source : List Char) (offset : Nat) : String :=
  let before := source.take offset
  let line := before.count '\n' + 1
  let column := (before.reverse.takeWhile (· != '\n')).length + 1
  s!"line {line} column {column} (char {offset})"

/-- The words for a fault in a text, with its place. -/
def Fault.describe (fault : Fault) (source : List Char) (remaining : Nat) : String :=
  s!"{fault.message}: {placeText source (source.length - remaining)}"

/-- The blanks between tokens. -/
def isSpace (c : Char) : Bool := c == ' ' || c == '\t' || c == '\n' || c == '\r'

/-- The text from its first character that is no space. -/
def skipSpace (s : List Char) : List Char := s.dropWhile isSpace

/-- The most digits an integer may have. -/
def maxIntegerDigits : Nat := 4300

/-- The value of a hexadecimal digit. -/
def hexDigit? (c : Char) : Option Nat :=
  if '0' ≤ c ∧ c ≤ '9' then some (c.toNat - '0'.toNat)
  else if 'a' ≤ c ∧ c ≤ 'f' then some (c.toNat - 'a'.toNat + 10)
  else if 'A' ≤ c ∧ c ≤ 'F' then some (c.toNat - 'A'.toNat + 10)
  else none

/-- The number written by four hexadecimal digits. -/
def hex4? (a b c d : Char) : Option Nat := do
  let a ← hexDigit? a
  let b ← hexDigit? b
  let c ← hexDigit? c
  let d ← hexDigit? d
  return ((a * 16 + b) * 16 + c) * 16 + d

/-- The character that a backslash and a letter stand for. -/
def simpleEscape? : Char → Option Char
  | '"' => some '"'
  | '\\' => some '\\'
  | '/' => some '/'
  | 'b' => some '\x08'
  | 'f' => some '\x0c'
  | 'n' => some '\n'
  | 'r' => some '\r'
  | 't' => some '\t'
  | _ => none

/-- The rest of a string after its opening quote, before which `remaining` characters were left;
`read` holds the characters read so far in reverse. -/
def readString (remaining : Nat) (read : List Char) :
    List Char → Except ReadError (String × List Char)
  | [] => .error (.fault .unterminatedString remaining)
  | '"' :: rest => .ok (.ofList read.reverse, rest)
  | '\\' :: rest =>
    match rest with
    | [] => .error (.fault .unterminatedString remaining)
    | 'u' :: digits =>
      let bad := .error (.fault .badUnicodeEscape (digits.length + 1))
      match digits with
      | a :: b :: c :: d :: e :: after =>
        match hex4? a b c d with
        | none => bad
        | some unit =>
          if 0xD800 ≤ unit ∧ unit < 0xDC00 then
            match e, after with
            | '\\', 'u' :: a' :: b' :: c' :: d' :: e' :: after' =>
              match hex4? a' b' c' d' with
              | none => .error (.fault .badUnicodeEscape (after'.length + 6))
              | some low =>
                if 0xDC00 ≤ low ∧ low < 0xE000 then
                  let point := 0x10000 + (unit - 0xD800) * 0x400 + (low - 0xDC00)
                  readString remaining (Char.ofNat point :: read) (e' :: after')
                else .error .loneSurrogate
            | _, _ => .error .loneSurrogate
          else if 0xDC00 ≤ unit ∧ unit < 0xE000 then .error .loneSurrogate
          else readString remaining (Char.ofNat unit :: read) (e :: after)
      | _ => bad
    | c :: after =>
      match simpleEscape? c with
      | some plain => readString remaining (plain :: read) after
      | none => .error (.fault .badEscape (after.length + 2))
  | c :: rest =>
    if c.toNat < 0x20 then .error (.fault .controlCharacter (rest.length + 1))
    else readString remaining (c :: read) rest
  termination_by s => s.length
  decreasing_by all_goals simp_wf; try omega

/-- A number at the head of a text, with the rest: an integer, or a double where a point followed
by a digit or an exponent with a digit comes after the integer part. -/
def readNumber (s : List Char) : Except ReadError (Json × List Char) :=
  let noValue := .error (.fault .noValue s.length)
  let (negative, unsigned) := match s with
    | '-' :: rest => (true, rest)
    | _ => (false, s)
  match unsigned with
  | [] => noValue
  | first :: rest =>
    if !first.isDigit then noValue
    else
      let (whole, afterWhole) :=
        if first = '0' then (['0'], rest)
        else (first :: rest.takeWhile Char.isDigit, rest.dropWhile Char.isDigit)
      let (fraction, afterFraction) := match afterWhole with
        | '.' :: d :: _ =>
          if d.isDigit then
            ((afterWhole.drop 1).takeWhile Char.isDigit, (afterWhole.drop 1).dropWhile Char.isDigit)
          else ([], afterWhole)
        | _ => ([], afterWhole)
      let exponent : Option (Bool × List Char × List Char) := match afterFraction with
        | e :: tail =>
          if e = 'e' ∨ e = 'E' then
            let (minus, digits) := match tail with
              | '-' :: more => (true, more)
              | '+' :: more => (false, more)
              | _ => (false, tail)
            let power := digits.takeWhile Char.isDigit
            if power.isEmpty then none else some (minus, power, digits.dropWhile Char.isDigit)
          else none
        | [] => none
      if fraction.isEmpty ∧ exponent.isNone then
        if maxIntegerDigits < whole.length then .error .integerTooLong
        else
          let value := Binary64.signed negative (Nat.ofDigitChars 10 whole 0)
          .ok (number (.int value), afterFraction)
      else
        let (minus, power, after) := exponent.getD (false, [], afterFraction)
        let shift : Int := Binary64.signed minus (Nat.ofDigitChars 10 power 0) - fraction.length
        let coefficient := Nat.ofDigitChars 10 (whole ++ fraction) 0
        .ok (number (.float (.ofDecimal negative coefficient shift)), after)

/-- The words that stand for a value of their own. -/
def words : List (List Char × Json) :=
  [("null".toList, null), ("true".toList, bool true), ("false".toList, bool false),
    ("NaN".toList, number (.float .nan)), ("Infinity".toList, number (.float (.infinite false))),
    ("-Infinity".toList, number (.float (.infinite true)))]

/-- A word or number at the head of a text. -/
def readScalar (s : List Char) : Except ReadError (Json × List Char) :=
  match words.find? fun (word, _) => word.isPrefixOf s with
  | some (word, value) => .ok (value, s.drop word.length)
  | none => readNumber s

mutual

/-- A value at the head of a text, with the rest. -/
def readValue : (fuel : Nat) → List Char → Except ReadError (Json × List Char)
  | 0, s => .error (.fault .noValue s.length)
  | _, [] => .error (.fault .noValue 0)
  | fuel + 1, c :: rest =>
    if c = '"' then
      (readString (rest.length + 1) [] rest).map fun (text, after) => (string text, after)
    else if c = '[' then
      match skipSpace rest with
      | ']' :: after => .ok (array [], after)
      | inside => readItems fuel [] inside
    else if c = '\x7b' then
      match skipSpace rest with
      | '\x7d' :: after => .ok (object [], after)
      | inside => readMembers fuel [] inside
    else readScalar (c :: rest)

/-- The items of an array after its bracket, `read` holding the ones read so far in reverse. -/
def readItems : (fuel : Nat) → (read : List Json) → List Char → Except ReadError (Json × List Char)
  | 0, _, s => .error (.fault .noValue s.length)
  | fuel + 1, read, s =>
    match readValue fuel s with
    | .error e => .error e
    | .ok (value, rest) =>
      match skipSpace rest with
      | ']' :: after => .ok (array (value :: read).reverse, after)
      | ',' :: after => readItems fuel (value :: read) (skipSpace after)
      | other => .error (.fault .noComma other.length)

/-- The members of an object after its brace, `read` holding the ones read so far. -/
def readMembers :
    (fuel : Nat) → (read : List (String × Json)) → List Char → Except ReadError (Json × List Char)
  | 0, _, s => .error (.fault .noPropertyName s.length)
  | fuel + 1, read, s =>
    match s with
    | '"' :: rest =>
      match readString (rest.length + 1) [] rest with
      | .error e => .error e
      | .ok (key, afterKey) =>
        match skipSpace afterKey with
        | ':' :: afterColon =>
          match readValue fuel (skipSpace afterColon) with
          | .error e => .error e
          | .ok (value, afterValue) =>
            let members := assign key value read
            match skipSpace afterValue with
            | '\x7d' :: after => .ok (object members, after)
            | ',' :: after => readMembers fuel members (skipSpace after)
            | other => .error (.fault .noComma other.length)
        | other => .error (.fault .noColon other.length)
    | other => .error (.fault .noPropertyName other.length)

end

/-- The value that a text writes. -/
def read (source : List Char) : Except ReadError Json :=
  match source with
  | '\uFEFF' :: _ => .error (.fault .byteOrderMark source.length)
  | _ =>
    match readValue (2 * source.length + 2) (skipSpace source) with
    | .error e => .error e
    | .ok (value, rest) =>
      match skipSpace rest with
      | [] => .ok value
      | extra => .error (.fault .extraData extra.length)

end TagAudit.Json
