import TagAudit.Pattern
import TagAudit.Script.Blanking

/-!
# Blocks of statements

A long block without a guard against errors: the script as a whole, or the body of one of its
functions, with more statements than the limit and no try block.
-/

namespace TagAudit.Script

/-- Does the character end a statement? -/
def endsStatement (c : Char) : Bool := c == ';' || c == '\n' || c == '\x7b' || c == '\x7d'

/-- The number of statements: the pieces between statement ends that are not blank. -/
def statementCount (block : List Char) : Nat :=
  (Text.splitAt endsStatement block).countP (!Text.isBlankText ·)

/-- A function up to its opening brace. -/
def functionHeader : Pattern :=
  .alt
    (.all [.wordEdge, .word "function", .wordEdge, .run (fun c => c != '\x7b' && c != ';') 0,
      .word "\x7b"])
    (.all [.word "=>", .blanks, .word "\x7b"])

/-- The text up to the brace that closes the `depth` open ones, and whether there is such a
brace. -/
def upToClosing (depth : Nat) : List Char → List Char × Bool
  | [] => ([], false)
  | c :: rest =>
    if c = '\x7d' ∧ depth = 1 then ([], true)
    else
      let inner := if c = '\x7b' then depth + 1 else if c = '\x7d' then depth - 1 else depth
      let (body, closed) := upToClosing inner rest
      (c :: body, closed)

/-- The body of a function from the text after its opening brace; a body that is never closed
lacks its last character. -/
def functionBody (afterOpening : List Char) : List Char :=
  let (body, closed) := upToClosing 1 afterOpening
  if closed then body else body.dropLast

/-- The bodies of all functions of a script. -/
def functionBodies (script : List Char) : List (List Char) :=
  (functionHeader.findAll script).map fun finding => functionBody finding.stop.rest

/-- The beginning of a guarded block. -/
def tryBlock : Pattern := .all [.wordEdge, .word "try", .blanks, .word "\x7b"]

/-- An opening or closing script element. -/
def scriptElement : Pattern :=
  .all [.word "<", .optional (.word "/"), .anyCase "script", .run (· != '>') 0, .word ">"]

/-- The code of a script whose blocks are examined. -/
def cleaned (script : List Char) : List Char := blank (scriptElement.replaceAll ['\n'] script)

/-- Has the block more statements than the limit and no guard? -/
def isLongUnguarded (limit : Nat) (block : List Char) : Bool :=
  limit < statementCount block && !tryBlock.occursIn block

/-- Is the script as a whole, or a function in it, a long block without a guard? -/
def hasLongUnguardedBlock (limit : Nat) (script : List Char) : Bool :=
  let code := cleaned script
  (code :: functionBodies code).any (isLongUnguarded limit)

end TagAudit.Script
