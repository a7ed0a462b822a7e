import TagAudit.Text.Search

/-!
# Paths

Paths are texts whose components stand between slashes. The last component is the name, and what
comes before it is the parent; joining a parent and a name gives a path of that name.
-/

namespace TagAudit.Path

/-- Is the character a slash? -/
def isSlash (c : Char) : Bool := c == '/'

/-- The characters up to the last slash, that slash included. -/
def front (path : List Char) : List Char := Text.trimEnd (!isSlash ·) path

/-- The characters after the last slash. -/
def tail (path : List Char) : List Char := (path.reverse.takeWhile (!isSlash ·)).reverse

/-- The front and the tail make up a path. -/
theorem front_append_tail (path : List Char) : front path ++ tail path = path := by
  rw [front, tail, Text.trimEnd, ← List.reverse_append, List.takeWhile_append_dropWhile,
    List.reverse_reverse]

/-- The text without slashes at its end, unless there is nothing else. -/
def withoutTrailingSlashes (path : List Char) : List Char :=
  if path.all isSlash then path else Text.trimEnd isSlash path

/-- The name of a path: its last component. -/
def name (path : String) : String := .ofList (tail path.toList)

/-- The parent of a path: all before the name. -/
def parent (path : String) : String := .ofList (withoutTrailingSlashes (front path.toList))

/-- The path of `name` below `parent`; a name that begins with a slash stands for itself. -/
def join (parent name : String) : String :=
  if name.beginsWith "/" then name
  else if parent.isEmpty || (parent.toList.getLast?).any isSlash then parent ++ name
  else parent ++ "/" ++ name

/-- The components of a path, of which some may be empty. -/
def components (path : String) : List String :=
  (Text.splitAt isSlash path.toList).map String.ofList

/-- The extension of JSON files. -/
def jsonExtension : List Char := ".json".toList

/-- Does the path end in the extension of JSON files? -/
def isJson (path : String) : Bool := jsonExtension.isSuffixOf path.toList

/-- The name of a path without the extension of JSON files. -/
def stem (path : String) : String :=
  if isJson (name path) then
    .ofList ((name path).toList.take ((name path).length - jsonExtension.length))
  else name path

/-- Trimming the end makes no text longer. -/
theorem length_trimEnd_le (p : Char → Bool) (s : List Char) :
    (Text.trimEnd p s).length ≤ s.length := by
  have := (List.dropWhile_sublist (l := s.reverse) p).length_le
  simpa [Text.trimEnd] using this

/-- The parent and the name of a path, slashes at the end of the path set aside. -/
def divided (path : List Char) : List Char × List Char :=
  let whole := if (tail path).isEmpty then withoutTrailingSlashes (front path) else path
  (withoutTrailingSlashes (front whole), tail whole)

/-- Setting slashes at the end aside makes no text longer. -/
theorem length_withoutTrailingSlashes_le (path : List Char) :
    (withoutTrailingSlashes path).length ≤ path.length := by
  unfold withoutTrailingSlashes
  split
  · exact Nat.le_refl _
  · exact length_trimEnd_le ..

/-- The parent is shorter than a path that has a name. -/
theorem length_divided_lt {path : List Char} (named : (divided path).2 ≠ []) :
    (divided path).1.length < path.length := by
  have bound (s : List Char) : (front s).length ≤ s.length := length_trimEnd_le ..
  have whole : (if (tail path).isEmpty then withoutTrailingSlashes (front path) else path).length
      ≤ path.length := by
    split
    · exact Nat.le_trans (length_withoutTrailingSlashes_le _) (bound path)
    · exact Nat.le_refl _
  simp only [divided] at named ⊢
  generalize (if (tail path).isEmpty then withoutTrailingSlashes (front path) else path) = s at *
  have parts := congrArg List.length (front_append_tail s)
  have := List.length_pos_iff.mpr named
  have := length_withoutTrailingSlashes_le (front s)
  simp only [List.length_append] at parts
  omega

/-- A path and the directories above it that it names, the nearest first. -/
def lineage (path : List Char) : List (List Char) :=
  if _ : (divided path).2 ≠ [] ∧ (divided path).1 ≠ [] then path :: lineage (divided path).1
  else [path]
  termination_by path.length
  decreasing_by exact length_divided_lt (by simp_all)

end TagAudit.Path
