import TagAudit.Script.Call
import TagAudit.Script.Literal

/-!
# Addresses in scripts

The hosts that a script names, the addresses that it sends requests to, and the traces of personal
data in such an address.
-/

namespace TagAudit.Script

/-- Is the character a letter, a digit, a point or a hyphen, letter case ignored? -/
def isHostChar (c : Char) : Bool :=
  let folded := Text.fold c
  folded.isLower || folded.isDigit || folded == '.' || folded == '-'

/-- The host of an absolute address, or of one without a scheme after a quotation mark, a
parenthesis or an equals sign. -/
def hostPattern : Pattern :=
  .all [
    .alt (.all [.anyCase "http", .optional (.anyCase "s"), .word ":"])
      (.after fun c => c == '\'' || c == '"' || c == '(' || c == '='),
    .word "//",
    .capture (.all [.run isHostChar 1, .word ".", .run (fun c => (Text.fold c).isLower) 2])]

/-- The hosts of the addresses in a script, each once, in the order of their first mention. -/
def hosts (script : List Char) : List String :=
  ((hostPattern.findAll script).map fun finding =>
    String.ofList (Text.trimEnd (· == '.') (Text.lower finding.stop.captured))).eraseDups

/-- The rest of a line up to a semicolon. -/
def restOfStatement : Pattern := .run (fun c => c != ';' && c != '\n') 1

/-- An assignment of a source address. -/
def sourceAssignment : Pattern :=
  .all [.word ".src", .blanks, .word "=", .notAhead (.word "="), .blanks,
    .capture restOfStatement]

/-- The expressions for the addresses to which a script sends requests: the first argument of a
fetch or a beacon, the second of an opened request where there is one, and assigned sources. -/
def outboundUrls (script : List Char) : List (List Char) :=
  let firstArguments (callee : Pattern) := (callArguments callee script).filterMap (·.head?)
  let opened := (callArguments (memberOf "open") script).filterMap fun arguments =>
    arguments[1]?.or arguments.head?
  firstArguments (named "fetch") ++ firstArguments (namedMember "sendBeacon") ++ opened ++
    (sourceAssignment.findAll script).map (·.stop.captured)

/-- An address of electronic mail. -/
def emailLiteral : Pattern :=
  .all [.run (fun c => Text.isWord c || c == '.' || c == '+' || c == '-') 1, .word "@",
    .run (fun c => Text.isWord c || c == '-') 1, .word ".",
    .run (fun c => Text.isWord c || c == '.' || c == '-') 1]

/-- A digit. -/
def digit : Pattern := .char Text.isDigit

/-- What may stand between the groups of a telephone number. -/
def groupGap : Pattern := .char fun c => c == '-' || c == '.' || Text.isBlank c

/-- A telephone number, international or in groups of three, three and four digits. -/
def phoneLiteral : Pattern :=
  .alt (.all [.word "+", digit.times 8, digit.upTo 7, .wordEdge])
    (.all [.wordEdge, digit.times 3, groupGap, digit.times 3, groupGap, digit.times 4, .wordEdge])

/-- A query key for personal data. -/
def personalQueryKey : Pattern :=
  .all [.char fun c => c == '?' || c == '&',
    .any [.anyCase "email", .all [.anyCase "e", .optional (.word "-"), .anyCase "mail"],
      .anyCase "mail", .anyCase "phone", .anyCase "tel"],
    .word "="]

/-- A name that speaks of personal data. -/
def personalName : Pattern :=
  .all [.notAfter fun c => c == '\'' || c == '"' || isNameChar c,
    .run isNameChar 0,
    .any [.anyCase "email", .anyCase "mail", .anyCase "phone", .anyCase "mobile"]]

/-- The text after a quoted passage within one line. A backslash takes the next character with
it where the passage can be closed so, and stands for itself otherwise. -/
def afterPassage? (quote : Char) : List Char → Option (List Char)
  | [] => none
  | '\\' :: rest =>
    match rest with
    | [] => none
    | c :: rest' =>
      if c = '\n' then afterPassage? quote (c :: rest')
      else (afterPassage? quote rest').or (afterPassage? quote (c :: rest'))
  | c :: rest =>
    if c = quote then some rest
    else if c = '\n' then none
    else afterPassage? quote rest

/-- The expression with every quoted passage replaced by an empty string. -/
def withoutPassages (expression : List Char) : List Char :=
  match expression with
  | [] => []
  | c :: rest =>
    match if isQuote c then afterPassage? c rest else none with
    | some after =>
      if after.length ≤ rest.length then '"' :: '"' :: withoutPassages after else ['"', '"']
    | none => c :: withoutPassages rest
  termination_by expression.length

/-- Does the expression for an address show personal data: a mail address, a telephone number, a
query key, or a name outside quoted passages? -/
def showsPersonalData (expression : List Char) : Bool :=
  emailLiteral.occursIn expression || phoneLiteral.occursIn expression ||
    personalQueryKey.occursIn expression || personalName.occursIn (withoutPassages expression)

end TagAudit.Script
