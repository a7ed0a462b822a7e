/-!
# Blanking strings and comments

A script is reduced to its code proper: the contents of strings and whole comments are dropped,
so that braces and semicolons can be counted. The scanner is a machine that reads one character
at a time; two slashes after a colon are not taken for a comment, since they belong to an address.
Scanning a text in two parts is scanning it at once.
-/

namespace TagAudit.Script

/-- The quotation marks of scripts. -/
def isQuote (c : Char) : Bool := c == '\'' || c == '"' || c == '`'

/-- Where in a script the scanner is. -/
inductive Region
  /-- In code, perhaps just after a colon. -/
  | code (afterColon : Bool)
  /-- After a slash in code that may open a comment, perhaps with a colon before it. -/
  | slash (afterColon : Bool)
  /-- In a string. -/
  | quoted (quote : Char)
  /-- After a backslash in a string. -/
  | escaped (quote : Char)
  /-- In a comment that ends with the line. -/
  | lineComment
  /-- In a comment that ends with a star and a slash, perhaps just after the star. -/
  | blockComment (afterStar : Bool)
  deriving DecidableEq, Repr

namespace Region

/-- The beginning of a script. -/
def start : Region := code false

/-- Reads a character of code: the new region and the text that is kept. -/
def stepCode (afterColon : Bool) (c : Char) : Region × List Char :=
  if isQuote c then (quoted c, [c])
  else if c = '/' then (slash afterColon, [])
  else (code (c == ':'), [c])

/-- Reads one character: the new region and the text that is kept. -/
def step : Region → Char → Region × List Char
  | code afterColon, c => stepCode afterColon c
  | slash afterColon, c =>
    if c = '*' then (blockComment false, [])
    else if c = '/' then if afterColon then (slash false, ['/']) else (lineComment, [])
    else
      let (region, kept) := stepCode false c
      (region, '/' :: kept)
  | quoted quote, c =>
    if c = '\\' then (escaped quote, [])
    else if c = quote then (code false, [c])
    else (quoted quote, [])
  | escaped quote, _ => (quoted quote, [])
  | lineComment, c => if c = '\n' then (code false, [c]) else (lineComment, [])
  | blockComment afterStar, c =>
    if c = '/' ∧ afterStar then (code false, []) else (blockComment (c == '*'), [])

/-- The text that is kept when the script ends in a region. -/
def flush : Region → List Char
  | slash _ => ['/']
  | _ => []

/-- Is the region outside strings and comments? -/
def isCode : Region → Bool
  | code _ | slash _ => true
  | _ => false

/-- Reads a text from a region on: the region at its end and the text that is kept. -/
def scan (region : Region) : List Char → Region × List Char
  | [] => (region, [])
  | c :: rest =>
    let (next, kept) := region.step c
    let (last, keptLater) := scan next rest
    (last, kept ++ keptLater)

/-- Scanning goes on after a first part where that part ended. -/
theorem scan_append (region : Region) (s t : List Char) :
    region.scan (s ++ t) =
      (((region.scan s).1.scan t).1, (region.scan s).2 ++ ((region.scan s).1.scan t).2) := by
  induction s generalizing region with
  | nil => simp [scan]
  | cons c rest ih => simp [scan, ih, List.append_assoc]

end Region

/-- The region in which a script ends. -/
def finalRegion (script : List Char) : Region := (Region.start.scan script).1

/-- The script without comments and without the contents of strings. -/
def blank (script : List Char) : List Char :=
  let (region, kept) := Region.start.scan script
  kept ++ region.flush

end TagAudit.Script
