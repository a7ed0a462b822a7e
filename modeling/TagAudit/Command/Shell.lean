import TagAudit.Command.Path
import TagAudit.Json.Display

/-!
# Shells

What a program needs from its surroundings: to look at, read and write files, to create
directories and to say something to its user. A shell offers these in some monad.
-/

namespace TagAudit

/-- What a path can lead to. -/
inductive FileKind
  | file
  | directory
  deriving DecidableEq, Repr, Inhabited

/-- Why a file or directory cannot be used. -/
inductive FileFault
  | notFound
  | alreadyThere
  | notADirectory
  | isADirectory
  | nameTooLong
  /-- The path holds a null character, so it cannot even be asked for. -/
  | unusableName
  | other (code : Nat) (description : String)
  deriving DecidableEq, Repr

namespace FileFault

/-- The number and the words of a fault that the system reports. -/
def report? : FileFault → Option (Nat × String)
  | notFound => some (2, "No such file or directory")
  | alreadyThere => some (17, "File exists")
  | notADirectory => some (20, "Not a directory")
  | isADirectory => some (21, "Is a directory")
  | nameTooLong => some (36, "File name too long")
  | unusableName => none
  | other code description => some (code, description)

end FileFault

/-- A fault of the file or directory at a path. -/
structure FileFailure where
  fault : FileFault
  path : String
  deriving DecidableEq, Repr

/-- The words for a failure that the system reports. -/
def FileFailure.message? (failure : FileFailure) : Option String :=
  failure.fault.report?.map fun (code, description) =>
    let path : String := .ofList (Json.displayString failure.path)
    s!"[Errno {code}] {description}: {path}"

/-- The surroundings of a program. -/
class Shell (m : Type → Type) where
  /-- What there is at a path. -/
  kind? (path : String) : m (Option FileKind)
  /-- The text of a file. -/
  read (path : String) : m (Except FileFault String)
  /-- Makes a text the content of a file. -/
  write (path text : String) : m (Except FileFault Unit)
  /-- Creates a directory below one that is there. -/
  createDirectory (path : String) : m (Except FileFault Unit)
  /-- Prints a line. -/
  say (line : String) : m Unit
  /-- Adds a line to the log. -/
  note (line : String) : m Unit

namespace Shell

variable {m : Type → Type} [Monad m] [Shell m]

/-- A program that may stop early has the surroundings of the one it is part of. -/
instance {ε : Type} : Shell (ExceptT ε m) where
  kind? path := ExceptT.lift (kind? path)
  read path := ExceptT.lift (read path)
  write path text := ExceptT.lift (write path text)
  createDirectory path := ExceptT.lift (createDirectory path)
  say line := ExceptT.lift (say line)
  note line := ExceptT.lift (note line)

/-- Is there anything at a path? -/
def isThere (path : String) : m Bool := return (← kind? path).isSome

/-- Creates the first directory of a lineage, and before it those above it where the next one is
missing. A directory that is there already will do. -/
def createLineage : List (List Char) → m (Except FileFailure Unit)
  | [] => return .ok ()
  | path :: above => do
    let text := String.ofList path
    match above with
    | parent :: _ =>
      if !(← isThere (.ofList parent)) then
        match ← createLineage above with
        | .error failure => if failure.fault ≠ .alreadyThere then return .error failure
        | .ok () => pure ()
        if (Path.divided path).2 = ['.'] then return .ok ()
    | [] => pure ()
    match ← createDirectory text with
    | .ok () => return .ok ()
    | .error fault =>
      return if (← kind? text) = some .directory then .ok () else .error ⟨fault, text⟩

/-- Creates a directory and those above it. -/
def createDirectories (path : String) : m (Except FileFailure Unit) :=
  createLineage (Path.lineage path.toList)

end Shell

end TagAudit
