import TagAudit.Config.Basic
import TagAudit.Container.Basic
import TagAudit.Duplicate
import TagAudit.Score.Weighted
import TagAudit.Variables.Check

/-!
# Quality of variables

The variables of a container with what is wrong with each, those that nothing refers to, and those
whose names differ in letter case alone; and the scores of these aspects.
-/

namespace TagAudit

/-- The quality of the variables of a container. -/
structure VariableQuality where
  userVariables : List Variable
  /-- What is wrong with variables by themselves. -/
  findings : List VariableFinding
  unused : Nat
  /-- The variables that duplicate another one, with that one. -/
  duplicates : List (String × String)
  issues : List Issue
  deriving DecidableEq, Repr

namespace VariableQuality

/-- The severity of a category, minor where none is configured. -/
def severityOf (config : Config) (category : Category) : Severity :=
  (config.variableSeverities.lookup category.name).getD .minor

/-- An issue of a variable. -/
def variableIssue (config : Config) (self : Variable) (category : Category)
    (reason suggestion : String) (facts : List (String × Json)) : Issue :=
  ⟨.variable, self.id, self.name, category, severityOf config category, reason, suggestion, facts⟩

/-- The issue of a finding. -/
def findingIssue (config : Config) (self : Variable) (finding : VariableFinding) : Issue :=
  variableIssue config self (.variableFault finding.fault) finding.reason finding.suggestion
    finding.facts

/-- The issue of a variable that nothing refers to. -/
def unusedIssue (config : Config) (self : Variable) : Issue :=
  variableIssue config self .variableUnused "Variable is not referenced anywhere"
    "Delete the variable if it is no longer needed" []

/-- The issue of a duplicate. -/
def duplicateIssue (config : Config) (self : Variable) (first : String) : Issue :=
  variableIssue config self .variableDuplicate
    s!"Name collides (case-insensitive) with variable {first}"
    "Rename or merge the duplicate variables" [("duplicate_of", .string first)]

/-- The duplicates among variables by their names in lower case. -/
def duplicatesAmong (examined : List Variable) : List (String × String) :=
  (groupBy (examined.map fun self => (self.name.lowered, self.id))).flatMap
    fun (_, ids) => duplicatesIn ids

/-- The issues of a variable, in the order of the rules. -/
def issuesOfVariable (config : Config) (referencedNames : List String)
    (duplicates : List (String × String)) (self : Variable) (finding : Option VariableFinding) :
    List Issue :=
  (finding.map (findingIssue config self)).toList ++
  (if referencedNames.contains self.name then [] else [unusedIssue config self]) ++
  ((firstOf? duplicates self.id).map (duplicateIssue config self)).toList

/-- The quality of the variables of a container of which the `referencedNames` are used. -/
def ofContainer (config : Config) (container : Container) (referencedNames : List String) :
    Except AnalysisError VariableQuality := do
  let userVariables := container.userVariables
  let duplicates := duplicatesAmong userVariables
  let judged ← userVariables.mapM fun self => self.finding?.map (self, ·)
  return {
    userVariables
    findings := judged.filterMap (·.2)
    unused := userVariables.countP fun self => !referencedNames.contains self.name
    duplicates
    issues := judged.flatMap fun (self, finding) =>
      issuesOfVariable config referencedNames duplicates self finding }

/-- The number of variables. -/
def total (quality : VariableQuality) : Nat := quality.userVariables.length

/-- The number of variables with a fault. -/
def faultCount (quality : VariableQuality) (fault : VariableFault) : Nat :=
  quality.findings.countP (·.fault == fault)

/-- The number of faults of all kinds. -/
def faultTotal (quality : VariableQuality) : Nat :=
  VariableFault.all.foldr (fun fault total => quality.faultCount fault + total) 0

/-- The number of variables of a kind. -/
def kindCount (quality : VariableQuality) (kind : VariableKind) : Nat :=
  quality.userVariables.countP (·.kind == kind)

/-- The number of duplicates. -/
def duplicateTotal (quality : VariableQuality) : Nat := duplicateCount quality.duplicates

section Scores

variable {α : Type} [Scalar α]

/-- The score of an aspect. -/
def aspectScore (quality : VariableQuality) : VariableAspect → α
  | .dataLayer =>
    Score.shareLeftOf (quality.faultCount .missingFallback) (quality.kindCount .dataLayer)
  | .lookup =>
    Score.shareLeftOf (quality.faultCount .lookupWithoutDefault) (quality.kindCount .lookup)
  | .hygiene => Score.shareLeftOf (quality.unused + quality.duplicateTotal) quality.total
  | .selectors =>
    Score.shareLeftOf (quality.faultCount .fragileSelector) (quality.kindCount .selector)
  | .scripts =>
    Score.shareLeftOf (quality.faultCount .unsafeCode) (quality.kindCount .customScript)
  | .regex =>
    Score.shareLeftOf (quality.faultCount .malformedRegex) (quality.kindCount .regexTable)

/-- The weighted mean of the aspects. -/
def score (quality : VariableQuality) (config : Config) : α :=
  Score.weightedMean (VariableAspect.all.map fun aspect =>
    (Scalar.ofNumber (config.variableWeights aspect), quality.aspectScore aspect))

end Scores

/-- The headline of the quality. -/
def message (quality : VariableQuality) (config : Config) :
    Except AnalysisError StatusMessage := do
  let status ← Score.status (quality.score config) config.statusThresholds
  return ⟨status, "Variable quality",
    if quality.total = 0 then "No variables in the container"
    else s!"{quality.faultTotal} configuration problems, {quality.unused} unused and " ++
      s!"{quality.duplicateTotal} duplicate variables out of {quality.total}",
    if status.isSome then "Fix variables" else "Variable configuration looks good"⟩

/-- The number of variables of each kind, in the order of their first variables. -/
def kindCountsJson (quality : VariableQuality) : Json :=
  .object (((quality.userVariables.map (·.kind)).eraseDups).map fun kind =>
    (kind.name, .nat (quality.kindCount kind)))

/-- The quality as a value. -/
def toJson (quality : VariableQuality) (config : Config) : Json :=
  .object [("score", .number (quality.score config)),
    ("breakdown", Config.tableJson VariableAspect.all (·.key)
      fun aspect => .number (quality.aspectScore aspect)),
    ("stats", .object <|
      [("total", .nat quality.total), ("unused", .nat quality.unused),
        ("duplicates", .nat quality.duplicateTotal)] ++
      VariableFault.all.map fun fault => (fault.name, .nat (quality.faultCount fault))),
    ("kind_counts", quality.kindCountsJson),
    ("issues", .array (quality.issues.map Issue.toJson))]

/-- What the log says about the quality. -/
def log (quality : VariableQuality) (config : Config) : List LogRecord :=
  let score : Number := quality.score config
  [⟨.debug, "gtm_variable_quality", s!"Variable quality: {quality.total} variables, " ++
    s!"score {score.toBinary64.fixedText 3}"⟩]

end VariableQuality

end TagAudit
