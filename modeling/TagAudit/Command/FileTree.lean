import TagAudit.Command.Shell

/-!
# File trees

A tree of directories and files as a value, with a working directory in which relative paths
begin. Every directory above an entry is there as well. A path is followed component by
component: an empty one and a single point stay, two points go up, and each of them needs a
directory to start from.
-/

namespace TagAudit

/-- A place in a file tree: the names on the way from the root. -/
abbrev Place := List String

/-- What is entered in a file tree. -/
inductive FileEntry
  | directory
  | file (text : String)
  deriving DecidableEq, Repr, Inhabited

/-- The kind of an entry. -/
def FileEntry.kind : FileEntry → FileKind
  | directory => .directory
  | file _ => .file

/-- A tree of directories and files. -/
structure FileTree where
  entries : List (Place × FileEntry) := []
  workingDirectory : Place := []
  deriving DecidableEq, Repr, Inhabited

namespace FileTree

/-- The most bytes of a name. -/
def maxNameSize : Nat := 255

/-- The most bytes of a path. -/
def maxPathSize : Nat := 4095

/-- What is at a place. -/
def entry? (tree : FileTree) (place : Place) : Option FileEntry :=
  match tree.entries.lookup place with
  | some entry => some entry
  | none =>
    if (tree.workingDirectory :: tree.entries.map (·.1)).any place.isPrefixOf then
      some .directory
    else none

/-- The place that a component leads to. -/
def follow (tree : FileTree) (place : Place) (name : String) : Except FileFault Place :=
  match tree.entry? place with
  | none => .error .notFound
  | some (.file _) => .error .notADirectory
  | some .directory =>
    if name = "" ∨ name = "." then .ok place
    else if name = ".." then .ok place.dropLast
    else if maxNameSize < name.utf8ByteSize then .error .nameTooLong
    else .ok (place ++ [name])

/-- The place that a path leads to. -/
def locate (tree : FileTree) (path : String) : Except FileFault Place :=
  if path.toList.contains '\x00' then .error .unusableName
  else if path.isEmpty then .error .notFound
  else if maxPathSize < path.utf8ByteSize then .error .nameTooLong
  else
    (Path.components path).foldlM tree.follow
      (if path.beginsWith "/" then [] else tree.workingDirectory)

/-- The tree with an entry at a place. -/
def put (tree : FileTree) (place : Place) (entry : FileEntry) : FileTree :=
  { tree with entries := (tree.entries.filter (·.1 != place)) ++ [(place, entry)] }

/-- What a path leads to. -/
def kind? (tree : FileTree) (path : String) : Option FileKind :=
  match tree.locate path with
  | .error _ => none
  | .ok place => (tree.entry? place).map FileEntry.kind

/-- The text of the file at a path. -/
def read (tree : FileTree) (path : String) : Except FileFault String := do
  match tree.entry? (← tree.locate path) with
  | none => throw .notFound
  | some .directory => throw .isADirectory
  | some (.file text) => return text

/-- The tree after a text has been written to a path. -/
def write (tree : FileTree) (path text : String) : Except FileFault FileTree := do
  let place ← tree.locate path
  match tree.entry? place with
  | some .directory => throw .isADirectory
  | _ => return tree.put place (.file text)

/-- The tree after a directory has been created at a path, slashes at whose end do not count. -/
def createDirectory (tree : FileTree) (path : String) : Except FileFault FileTree := do
  let place ← tree.locate (.ofList (Path.withoutTrailingSlashes path.toList))
  match tree.entry? place with
  | some _ => throw .alreadyThere
  | none => return tree.put place .directory

/-- The place that a component leads to where all directories on the way are made. -/
def reach (place : Place) (name : String) : Place :=
  if name = "" ∨ name = "." then place
  else if name = ".." then place.dropLast
  else place ++ [name]

/-- The tree of the given entries in a working directory; of several at one place the last one
stays. -/
def ofEntries (workingDirectory : Place) (entries : List (String × FileEntry)) : FileTree :=
  entries.foldl (fun tree (path, entry) =>
    tree.put ((Path.components path).foldl reach workingDirectory) entry)
    { workingDirectory }

/-- The files below the working directory, by their paths from there. -/
def files (tree : FileTree) : List (String × String) :=
  tree.entries.filterMap fun (place, entry) =>
    match entry with
    | .file text =>
      if tree.workingDirectory.isPrefixOf place then
        some ("/".intercalate (place.drop tree.workingDirectory.length), text)
      else none
    | .directory => none

end FileTree

end TagAudit
