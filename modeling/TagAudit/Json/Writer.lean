import TagAudit.Json.Basic

/-!
# Writing JSON

Two written forms of a value. The canonical form has its keys in order and nothing beyond ASCII,
so values that differ only in the order of their members are written alike. The indented form
keeps the order of members and writes every printable character as it is.
-/

namespace TagAudit.Json

/-- Hexadecimal digits of a number, at least `width` of them. -/
def hexText (width n : Nat) : List Char :=
  let digits := Nat.toDigits 16 n
  List.replicate (width - digits.length) '0' ++ digits

/-- The escape that both forms use for a character, if any. -/
def commonEscape? (c : Char) : Option (List Char) :=
  match c with
  | '"' => some ['\\', '"']
  | '\\' => some ['\\', '\\']
  | '\n' => some ['\\', 'n']
  | '\r' => some ['\\', 'r']
  | '\t' => some ['\\', 't']
  | '\x08' => some ['\\', 'b']
  | '\x0c' => some ['\\', 'f']
  | _ => none

/-- A code unit as an escape. -/
def unitEscape (n : Nat) : List Char := '\\' :: 'u' :: hexText 4 n

/-- A character as it stands in an ASCII string: beyond the basic plane, as a surrogate pair. -/
def asciiChar (c : Char) : List Char :=
  match commonEscape? c with
  | some escape => escape
  | none =>
    let n := c.toNat
    if 0x20 ≤ n ∧ n < 0x7f then [c]
    else if n < 0x10000 then unitEscape n
    else
      unitEscape (0xD800 + (n - 0x10000) / 0x400) ++ unitEscape (0xDC00 + (n - 0x10000) % 0x400)

/-- A character as it stands in a string of the indented form. -/
def plainChar (c : Char) : List Char :=
  match commonEscape? c with
  | some escape => escape
  | none => if c.toNat < 0x20 then unitEscape c.toNat else [c]

/-- A string in quotes, each character written by `char`. -/
def quoted (char : Char → List Char) (s : String) : List Char :=
  '"' :: s.toList.flatMap char ++ ['"']

/-- A number; the non-finite ones by name. -/
def numberText : Number → List Char
  | .float .nan => "NaN".toList
  | .float (.infinite negative) => (if negative then "-Infinity" else "Infinity").toList
  | n => n.text.toList

/-- The pieces with `separator` between them. -/
def joined (separator : List Char) (pieces : List (List Char)) : List Char :=
  (pieces.intersperse separator).flatten

/-- Members in the order of their keys; members of one key keep their order. -/
def sortedMembers {α : Type} (members : List (String × α)) : List (String × α) :=
  members.mergeSort fun a b => a.1 ≤ b.1

mutual

/-- The canonical form of a value. -/
def canonical : Json → List Char
  | null => "null".toList
  | bool b => (if b then "true" else "false").toList
  | number n => numberText n
  | string s => quoted asciiChar s
  | array xs => '[' :: joined [',', ' '] (canonicalItems xs) ++ [']']
  | object ms =>
    let members := sortedMembers (canonicalMembers ms)
    '\x7b' :: joined [',', ' '] (members.map fun (key, value) =>
      quoted asciiChar key ++ ':' :: ' ' :: value) ++ ['\x7d']

/-- The canonical forms of the items of an array. -/
def canonicalItems : List Json → List (List Char)
  | [] => []
  | x :: xs => canonical x :: canonicalItems xs

/-- The keys of an object with the canonical forms of their values. -/
def canonicalMembers : List (String × Json) → List (String × List Char)
  | [] => []
  | (key, value) :: rest => (key, canonical value) :: canonicalMembers rest

end

/-- A line break and the indentation of a nesting depth. -/
def lineBreak (depth : Nat) : List Char := '\n' :: List.replicate (2 * depth) ' '

/-- Pieces between brackets, each on a line of its own. -/
def bracketed (opening closing : Char) (depth : Nat) (pieces : List (List Char)) : List Char :=
  if pieces.isEmpty then [opening, closing]
  else
    opening :: lineBreak (depth + 1) ++ joined (',' :: lineBreak (depth + 1)) pieces ++
      lineBreak depth ++ [closing]

mutual

/-- The indented form of a value at a nesting depth. -/
def indentedAt (depth : Nat) : Json → List Char
  | null => "null".toList
  | bool b => (if b then "true" else "false").toList
  | number n => numberText n
  | string s => quoted plainChar s
  | array xs => bracketed '[' ']' depth (indentedItems (depth + 1) xs)
  | object ms => bracketed '\x7b' '\x7d' depth (indentedMembers (depth + 1) ms)

/-- The indented forms of the items of an array. -/
def indentedItems (depth : Nat) : List Json → List (List Char)
  | [] => []
  | x :: xs => indentedAt depth x :: indentedItems depth xs

/-- The indented forms of the members of an object. -/
def indentedMembers (depth : Nat) : List (String × Json) → List (List Char)
  | [] => []
  | (key, value) :: rest =>
    (quoted plainChar key ++ ':' :: ' ' :: indentedAt depth value) :: indentedMembers depth rest

end

/-- The indented form of a value. -/
def indented (value : Json) : List Char := indentedAt 0 value

end TagAudit.Json
