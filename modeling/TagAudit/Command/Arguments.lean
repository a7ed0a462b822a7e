/-!
# Command line arguments

A command line is a sequence of items: flags, settings with their values and at most one file.
Reading it takes the items one after another and stops at the first fault; a later value of a
setting replaces an earlier one.
-/

namespace TagAudit.Command

/-- The flags. -/
inductive Flag
  | debug
  | csv
  deriving DecidableEq, Repr, Inhabited

namespace Flag

/-- The word for a flag. -/
def word : Flag → String
  | debug => "--debug"
  | csv => "--csv"

/-- The flag that a word stands for. -/
def ofWord? (word : String) : Option Flag := [debug, csv].find? (·.word == word)

end Flag

/-- The settings, which take the next word for their value, whatever it is. -/
inductive Setting
  | config
  | outputDirectory
  deriving DecidableEq, Repr, Inhabited

namespace Setting

/-- The word for a setting. -/
def word : Setting → String
  | config => "--config"
  | outputDirectory => "--output-dir"

/-- The setting that a word stands for. -/
def ofWord? (word : String) : Option Setting := [config, outputDirectory].find? (·.word == word)

end Setting

/-- What is asked for on the command line. -/
structure Arguments where
  file? : Option String := none
  debug : Bool := false
  csv : Bool := false
  config? : Option String := none
  outputDirectory? : Option String := none
  deriving DecidableEq, Repr, Inhabited

/-- Why a command line is refused. -/
inductive ArgumentError
  | noValue (word : String)
  | unknownOption (word : String)
  | secondFile (word : String)
  deriving DecidableEq, Repr

/-- The words for a refusal. -/
def ArgumentError.message : ArgumentError → String
  | noValue word => s!"{word} needs a value"
  | unknownOption word => s!"Unknown option: {word}"
  | secondFile word => s!"Unexpected argument: {word}"

namespace Arguments

/-- The arguments with a flag raised. -/
def raise (arguments : Arguments) : Flag → Arguments
  | .debug => { arguments with debug := true }
  | .csv => { arguments with csv := true }

/-- The arguments with the value of a setting. -/
def set (arguments : Arguments) (setting : Setting) (value : String) : Arguments :=
  match setting with
  | .config => { arguments with config? := some value }
  | .outputDirectory => { arguments with outputDirectory? := some value }

/-- Does a word look like an option? -/
def isOption (word : String) : Bool := "--".toList.isPrefixOf word.toList

/-- The arguments that further words make of those read so far. -/
def readFrom (arguments : Arguments) : List String → Except ArgumentError Arguments
  | [] => .ok arguments
  | word :: rest =>
    match Flag.ofWord? word, Setting.ofWord? word with
    | some flag, _ => readFrom (arguments.raise flag) rest
    | none, some setting =>
      match rest with
      | [] => .error (.noValue word)
      | value :: rest => readFrom (arguments.set setting value) rest
    | none, none =>
      if isOption word then .error (.unknownOption word)
      else match arguments.file? with
        | some _ => .error (.secondFile word)
        | none => readFrom { arguments with file? := some word } rest

/-- The arguments on a command line. -/
def read (words : List String) : Except ArgumentError Arguments := readFrom {} words

end Arguments

/-- How the program is to be called. -/
def usage : List String :=
  ["GTM Container Quality Pipeline", .ofList (List.replicate 40 '='), "",
    "Usage: python run_gtm_quality.py <path_to_gtm_export.json> [options]", "",
    "Options:",
    "  --debug              Show debug logging during analysis",
    "  --config FILE        JSON file overriding weights and thresholds",
    "  --csv                Also save the issue table as CSV",
    "  --output-dir DIR     Output directory for generated files"]

end TagAudit.Command
