import TagAudit.Command.FileTree

/-!
# Sessions

The surroundings of a program as a value: a file tree, the lines that were printed and the lines
of the log. Programs run in a session by threading it through, so what they do is what they make
of the session.
-/

namespace TagAudit

/-- A file tree with what was printed and noted. -/
structure Session where
  tree : FileTree
  printed : List String := []
  noted : List String := []
  deriving DecidableEq, Repr, Inhabited

namespace Session

/-- Changes the file tree, unless that fails. -/
def change (step : FileTree → Except FileFault FileTree) :
    StateM Session (Except FileFault Unit) := fun session =>
  match step session.tree with
  | .ok tree => (.ok (), { session with tree })
  | .error fault => (.error fault, session)

instance : Shell (StateM Session) where
  kind? path := fun session => (session.tree.kind? path, session)
  read path := fun session => (session.tree.read path, session)
  write path text := change (·.write path text)
  createDirectory path := change (·.createDirectory path)
  say line := fun session => ((), { session with printed := session.printed ++ [line] })
  note line := fun session => ((), { session with noted := session.noted ++ [line] })

/-- All that was printed. -/
def output (session : Session) : String := String.join (session.printed.map (· ++ "\n"))

end Session

end TagAudit
