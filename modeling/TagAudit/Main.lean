import TagAudit.Command.Run

/-!
# The program

Runs the command line program on the files of the system.
-/

namespace TagAudit

/-- The fault that the system reports. -/
def faultOf : IO.Error → FileFault
  | .noFileOrDirectory .. | .noSuchThing .. => .notFound
  | .alreadyExists .. => .alreadyThere
  | .inappropriateType _ code _ => if code = 21 then .isADirectory else .notADirectory
  | .invalidArgument _ code details | .permissionDenied _ code details
  | .resourceExhausted _ code details => .other code.toNat details
  | .otherError code details | .resourceBusy code details | .resourceVanished code details
  | .unsupportedOperation code details | .hardwareFault code details
  | .unsatisfiedConstraints code details | .illegalOperation code details
  | .protocolError code details | .timeExpired code details | .interrupted _ code details =>
    .other code.toNat details
  | .unexpectedEof | .userError _ => .other 5 "Input/output error"

/-- The result of an action, or the fault that it meets. -/
def attempt {α : Type} (action : IO α) : IO (Except FileFault α) := do
  match ← action.toBaseIO with
  | .ok value => return .ok value
  | .error e => return .error (faultOf e)

instance : Shell IO where
  kind? path := do
    match ← attempt do return (← (← IO.FS.realPath path).metadata).type with
    | .ok .dir => return some .directory
    | .ok _ => return some .file
    | .error _ => return none
  read path := attempt (IO.FS.readFile path)
  write path text := attempt (IO.FS.writeFile path text)
  createDirectory path := attempt (IO.FS.createDir path)
  say line := do (← IO.getStdout).putStrLn line
  note line := do (← IO.getStderr).putStrLn line

end TagAudit

/-- Runs the program; a run that breaks down ends with one as well. -/
def main (words : List String) : IO UInt32 := do
  match ← (TagAudit.Command.run words : IO _) with
  | .ok code => return code.toUInt32
  | .error _ =>
    (← IO.getStderr).putStrLn "The run broke down."
    return 1
