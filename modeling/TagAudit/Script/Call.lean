import TagAudit.Pattern
import TagAudit.Script.Blanking

/-!
# Calls and their arguments

The calls of a function in a script and the texts of their arguments. Arguments end at commas
outside strings and brackets; the kind of a bracket does not matter. A call that is never closed
has no arguments to report and is passed over.
-/

namespace TagAudit.Script

/-- Is the character an opening bracket of any kind? -/
def isOpening (c : Char) : Bool := c == '(' || c == '[' || c == '\x7b'

/-- Is the character a closing bracket of any kind? -/
def isClosing (c : Char) : Bool := c == ')' || c == ']' || c == '\x7d'

/-- The arguments of a call from inside its parentheses on. `depth` brackets are open there, and
perhaps a string; `current` is the argument read so far and `done` the arguments before it, both
reversed. -/
def argumentsFrom (depth : Nat) (quote : Option Char) (current : List Char)
    (done : List (List Char)) : List Char → Option (List (List Char))
  | [] => none
  | c :: rest =>
    match quote with
    | some q =>
      if c = '\\' then
        match rest with
        | [] => none
        | d :: rest' => argumentsFrom depth quote (d :: c :: current) done rest'
      else argumentsFrom depth (if c = q then none else quote) (c :: current) done rest
    | none =>
      if isQuote c then argumentsFrom depth (some c) (c :: current) done rest
      else if isOpening c then argumentsFrom (depth + 1) none (c :: current) done rest
      else if isClosing c then
        if depth = 0 then
          some (((Text.strip current.reverse :: done).filter (!·.isEmpty)).reverse)
        else argumentsFrom (depth - 1) none (c :: current) done rest
      else if c = ',' ∧ depth = 0 then
        argumentsFrom depth none [] (Text.strip current.reverse :: done) rest
      else argumentsFrom depth none (c :: current) done rest

/-- The arguments of a call, from the text after its opening parenthesis. -/
def arguments? (afterOpening : List Char) : Option (List (List Char)) :=
  argumentsFrom 0 none [] [] afterOpening

/-- Is the character part of a name in a script? -/
def isNameChar (c : Char) : Bool := Text.isWord c || c == '$'

/-- A call of a function up to its opening parenthesis. -/
def callPattern (callee : Pattern) : Pattern :=
  .all [.notAfter isNameChar, callee, .blanks, .word "("]

/-- The arguments of every call of a function in a script. -/
def callArguments (callee : Pattern) (script : List Char) : List (List (List Char)) :=
  ((callPattern callee).findAll script).filterMap fun finding => arguments? finding.stop.rest

/-- A name. -/
def named (name : String) : Pattern := .word name

/-- A name, perhaps as a member of an object. -/
def namedMember (name : String) : Pattern :=
  .all [.run Text.isWord 0, .optional (.word "."), .word name]

/-- A member of an object. -/
def memberOf (name : String) : Pattern := .all [.run Text.isWord 1, .word ".", .word name]

end TagAudit.Script
