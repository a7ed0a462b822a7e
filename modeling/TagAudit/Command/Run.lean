import TagAudit.Command.Arguments
import TagAudit.Command.CopyMark
import TagAudit.Command.Shell
import TagAudit.Config.Override
import TagAudit.Json.Reader
import TagAudit.Report.Text
import TagAudit.Text.LineBreak

/-!
# Runs of the command line program

A run reads an export and perhaps a configuration, audits the export, prints the report and saves
it. It ends with an exit code: zero when the work is done and one when something is refused. A few
faults are not provided for, and break the run down.
-/

namespace TagAudit.Command

/-- A fault that a run has no exit code for. -/
inductive Breakdown
  /-- A file or directory that cannot be used, or a text that cannot be written to one. -/
  | file (fault : FileFault)
  /-- An integer with more digits than are read. -/
  | integerTooLong
  /-- A configuration with values that have no order. -/
  | incomparable
  deriving DecidableEq, Repr

/-- What ends a run before its work is done. -/
inductive Interruption
  /-- Something is refused, for reasons that are printed. -/
  | refused (lines : List String)
  | broken (breakdown : Breakdown)
  deriving DecidableEq, Repr

/-- Steps of a run, each of which may be the last. -/
abbrev Steps (m : Type → Type) := ExceptT Interruption m

section Steps

variable {m : Type → Type} [Monad m] [Shell m]

/-- Ends a run with the reasons for it. -/
def refuse {α : Type} (lines : List String) : Steps m α := throw (.refused lines)

/-- Ends a run without an exit code. -/
def breakDown {α : Type} (breakdown : Breakdown) : Steps m α := throw (.broken breakdown)

/-- Prints lines. -/
def sayAll (lines : List String) : m Unit := lines.forM Shell.say

/-- Adds the records from a level on to the log. -/
def noteAll (level : LogLevel) (records : List LogRecord) : m Unit :=
  (LogRecord.linesFrom level records).forM Shell.note

/-- Why the name of a file is refused, if it is. -/
def nameComplaint (path : String) : m (List String) := do
  let name := Path.name path
  match CopyMark.first? name.toList with
  | none => return []
  | some mark =>
    let mark := String.ofList mark
    let clean := CopyMark.cleanName name
    let taken ← Shell.isThere (Path.join (Path.parent path) clean)
    return [s!"ERROR: The filename '{name}' contains a copy indicator '{mark}'.",
      "  This usually means the file is a duplicate created by your OS.",
      s!"  Rename the file to: {clean}"] ++
      if taken then
        [s!"  NOTE: '{clean}' already exists in the same directory; you may want to use that one."]
      else []

/-- Lets a run go on with an export that is there, has the right extension and no copy mark. -/
def checkExport (path : String) : Steps m Unit := do
  if !(← Shell.isThere path) then refuse [s!"ERROR: File '{path}' not found."]
  if !Path.isJson path then refuse ["ERROR: Input file must be a .json GTM export file."]
  let complaint ← nameComplaint path
  if !complaint.isEmpty then refuse complaint

/-- The characters of a file, with a line feed for every line break. -/
def source (text : String) : List Char := Text.unifyLineBreaks text.toList

/-- The fault of what cannot be written as a text. -/
def unencodable : FileFault := .other 84 "Invalid or incomplete multibyte or wide character"

/-- The value that a file holds, where a fault in it is refused in the words of `complaint`. Half of
a surrogate pair breaks a run down where it is read, and not only where it would be written. -/
def valueOf (text : String) (complaint : String → String) : Steps m Json :=
  let source := source text
  match Json.read source with
  | .ok value => pure value
  | .error (.fault fault remaining) => refuse [complaint (fault.describe source remaining)]
  | .error .integerTooLong => breakDown .integerTooLong
  | .error .loneSurrogate => breakDown (.file unencodable)

/-- The configuration in a file; the default one where no file is named. -/
def readConfig (level : LogLevel) (path : String) : Steps m Config := do
  if path.isEmpty then return .default
  match ← Shell.read path with
  | .error .notFound => refuse [s!"ERROR: Configuration file '{path}' not found"]
  | .error fault => breakDown (.file fault)
  | .ok text =>
    let overrides ← valueOf text fun fault =>
      s!"ERROR: Invalid JSON in configuration file '{path}': {fault}"
    match Config.ofJson overrides with
    | .error .incomparable => breakDown .incomparable
    | .error error => refuse [s!"ERROR: {error.message}"]
    | .ok config =>
      noteAll level [⟨.debug, "gtm_quality_config", s!"Loaded quality configuration from {path}"⟩]
      return config

/-- Ends a run because of a file or directory that cannot be used. -/
def failOn {α : Type} (failure : FileFailure) : Steps m α :=
  match failure.message? with
  | some message => refuse [s!"ERROR: Could not read or write files. {message}"]
  | none => breakDown (.file failure.fault)

/-- Writes a text to a file. -/
def save (path text : String) : Steps m Unit := do
  match ← Shell.write path text with
  | .ok () => return
  | .error fault => failOn ⟨fault, path⟩

/-- The value in the file of an export. -/
def readExport (path : String) : Steps m Json := do
  match ← Shell.read path with
  | .error fault => failOn ⟨fault, path⟩
  | .ok text => valueOf text fun fault => s!"ERROR: Invalid JSON file. {fault}"

end Steps

/-- The files that a run saves. -/
structure OutputPaths where
  report : String
  issues : String
  deriving DecidableEq, Repr

/-- The files for an export: in the given directory, or else beside the export. -/
def OutputPaths.of (file directory : String) : OutputPaths :=
  let beside := if (Path.parent file).isEmpty then "." else Path.parent file
  let place := if directory.isEmpty then beside else directory
  ⟨Path.join place (Path.stem file ++ "_quality_report.json"),
    Path.join place (Path.stem file ++ "_quality_issues.csv")⟩

/-- A line across the page under a title, which stands between two of them. -/
def banner (title : String) : List String := [Report.rule '=', title, Report.rule '=']

section Run

variable {m : Type → Type} [Monad m] [Shell m]

/-- Audits the value of an export and saves what comes of it. -/
def auditExport (arguments : Arguments) (file : String) (level : LogLevel) (config : Config)
    (data : Json) : Steps m Unit := do
  let audit := Audit.ofData config (fun _ => false) data
  noteAll level audit.log
  let report := Report.ofAudit audit
  sayAll report.lines
  let directory := arguments.outputDirectory?.getD ""
  if !directory.isEmpty then
    match ← Shell.createDirectories directory with
    | .ok () => pure ()
    | .error failure => failOn failure
  let output := OutputPaths.of file directory
  save output.report (.ofList audit.toJson.indented)
  sayAll ["", s!"Quality report saved to: {output.report}"]
  if arguments.csv then
    save output.issues (Report.issueLines report.issues)
    sayAll [s!"Issue table saved to: {output.issues}"]
  sayAll <| [""] ++ banner "PIPELINE COMPLETE" ++
    [s!"  Input file:      {file}", s!"  Quality score:   {report.total}/100",
      s!"  Quality report:  {output.report}"] ++
    (if arguments.csv then [s!"  Issue table:     {output.issues}"] else []) ++ [""]

/-- The steps of a run with a file. -/
def auditFile (arguments : Arguments) (file : String) : Steps m Unit := do
  let level : LogLevel := if arguments.debug then .debug else .warning
  checkExport file
  let config ← readConfig level (arguments.config?.getD "")
  sayAll (banner "STEP 1: Analyzing GTM container quality" ++ [""])
  auditExport arguments file level config (← readExport file)

/-- The steps of a run. -/
def steps (words : List String) : Steps m Unit :=
  match Arguments.read words with
  | .error error => refuse (s!"ERROR: {error.message}" :: usage)
  | .ok arguments =>
    let file := arguments.file?.getD ""
    if file.isEmpty then refuse usage else auditFile arguments file

/-- A run with the words of a command line: its exit code, or why it broke down. -/
def run (words : List String) : m (Except Breakdown Nat) := do
  match ← (steps words).run with
  | .ok () => return .ok 0
  | .error (.refused lines) =>
    sayAll lines
    return .ok 1
  | .error (.broken breakdown) => return .error breakdown

end Run

end TagAudit.Command
