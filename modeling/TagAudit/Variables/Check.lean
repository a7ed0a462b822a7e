import TagAudit.Container.Variable
import TagAudit.Issue
import TagAudit.Regex.Check
import TagAudit.Script.Finding

/-!
# Checks of variables

What can be wrong with a variable by itself, for each kind that can be checked: no fallback, no
default, a faulty regular expression, a selector by generated class names, or dangerous code.
-/

namespace TagAudit

/-- What is wrong with a variable. -/
structure VariableFinding where
  fault : VariableFault
  reason : String
  suggestion : String
  /-- Further facts, by name. -/
  facts : List (String × Json) := []
  deriving DecidableEq, Repr

/-- A finding as a value. -/
def VariableFinding.toJson (finding : VariableFinding) : Json :=
  .object <|
    [("stat", .string finding.fault.name), ("reason", .string finding.reason),
      ("suggestion", .string finding.suggestion)] ++
    (if finding.facts.isEmpty then [] else [("meta", .object finding.facts)])

namespace Variable

/-- The texts under a key in the rows of the variable's table. -/
def tableTexts (self : Variable) (key : String) : List String :=
  ((self.parameter "map").items.flatMap fun row => (row.get "map").items).filterMap fun cell =>
    if Field.hasKey key cell then (cell.get "value").string? else none

/-- The regular expressions of the variable: its pattern and those of its table. -/
def patterns (self : Variable) : List String :=
  [(self.parameter "pattern").text].filter (!·.isEmpty) ++ self.tableTexts "key"

/-- Has a table a default, or a table of defaults? -/
def hasLookupDefault (self : Variable) : Bool :=
  (self.parameter "defaultTable").isNonempty || !(self.parameter "defaultValue").isAbsent

/-- The selector of the variable, empty where there is none. -/
def selector (self : Variable) : String :=
  let texts := ["selector", "elementSelector", "cssSelector"].map fun key =>
    (self.parameter key).text
  (texts.find? (!·.isEmpty)).getD ""

/-- Is the character a letter or a digit, letter case ignored? -/
def isAlphanumFolded (c : Char) : Bool := (Text.fold c).isAlphanum

/-- Is the character a letter, a digit, a hyphen or an underscore? -/
def isClassChar (c : Char) : Bool := c.isAlphanum || c == '-' || c == '_'

/-- Class names that are generated, by the tools that generate them. -/
def generatedClasses : List Pattern :=
  [.all [.anyCase ".css-", .run isAlphanumFolded 5],
    .all [.anyCase ".sc-", .run isAlphanumFolded 4],
    .all [.word ".jss", .run Text.isDigit 1],
    .all [.word ".Mui", .run Char.isAlpha 1, .word "-",
      .run (fun c => c.isAlphanum || c == '-') 1],
    .all [.anyCase ".chakra-", .run (fun c => (Text.fold c).isAlpha) 0, .char Char.isDigit,
      .run isAlphanumFolded 5],
    .all [.word "._", .ahead (.all [.run isClassChar 0, .char Text.isDigit]),
      .run isClassChar 5]]

/-- Is the selector built on generated class names? -/
def isFragileSelector (selector : String) : Bool :=
  generatedClasses.any (·.occursIn selector.toList)

/-- Dangerous code, by its label. -/
def unsafeCode : List (String × Pattern) :=
  [("eval(", Script.globalEval), ("document.write(", Script.documentWrite),
    ("new Function(", Script.newFunction)]

/-- The labels of the dangerous code in a script. -/
def unsafeLabels (script : String) : List String :=
  (unsafeCode.filter fun (_, pattern) => pattern.occursIn script.toList).map (·.1)

/-- The finding of the first faulty regular expression of a list. -/
def firstMalformed? : List String → Except AnalysisError (Option VariableFinding)
  | [] => .ok none
  | pattern :: rest => do
    match ← Regex.scriptFault? pattern with
    | some fault =>
      return some ⟨.malformedRegex, s!"Regex '{pattern}' does not compile: {fault}",
        "Fix the regular expression syntax", [("pattern", .string pattern)]⟩
    | none => firstMalformed? rest

/-- The finding of a selector. -/
def selectorFinding? (selector : String) : Option VariableFinding :=
  if isFragileSelector selector then
    some ⟨.fragileSelector, s!"Selector '{selector}' relies on generated class names",
      "Use a stable attribute such as [data-cta='buy']", [("selector", .string selector)]⟩
  else none

/-- The finding of a script. -/
def scriptFinding? (script : String) : Option VariableFinding :=
  let labels := unsafeLabels script
  if labels.isEmpty then none
  else some ⟨.unsafeCode, "Custom JavaScript uses " ++ ", ".intercalate labels,
    "Remove eval, document.write and new Function", [("patterns", .strings labels)]⟩

/-- What is wrong with a variable by itself, if anything. -/
def finding? (self : Variable) : Except AnalysisError (Option VariableFinding) :=
  match self.kind with
  | .dataLayer => .ok <|
    if (self.parameter "defaultValue").isAbsent then
      some ⟨.missingFallback, "Data Layer Variable has no default value",
        "Set a default value such as '' or 'undefined'", []⟩
    else none
  | .lookup => .ok <|
    if self.hasLookupDefault then none
    else some ⟨.lookupWithoutDefault,
      "Lookup Table has no default value, unmatched input resolves to undefined",
      "Set a default value for unmatched input", []⟩
  | .regexTable => firstMalformed? self.patterns
  | .selector => .ok (selectorFinding? self.selector)
  | .customScript => .ok ((self.parameter "javascript").string?.bind scriptFinding?)
  | .constant | .other => .ok none

end Variable

end TagAudit
