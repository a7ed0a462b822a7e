import TagAudit.Text.Digit
import TagAudit.Text.Search

/-!
# Copy marks

A number in parentheses in the name of a file, as it is added when a file is saved a second time.
Such a file is likely to be stale, so its name is refused and one without marks is suggested.
-/

namespace TagAudit.CopyMark

/-- A copy mark at the head of a text, with the rest. -/
def atHead? : List Char → Option (List Char × List Char)
  | '(' :: rest =>
    match rest.takeWhile Text.isDigit, rest.dropWhile Text.isDigit with
    | d :: digits, ')' :: after => some ('(' :: d :: digits ++ [')'], after)
    | _, _ => none
  | _ => none

/-- A mark and what follows it make up the text. -/
theorem append_of_atHead? {s mark rest : List Char} (found : atHead? s = some (mark, rest)) :
    mark ++ rest = s := by
  unfold atHead? at found
  split at found
  · rename_i inside
    split at found
    · rename_i d digits after taken dropped
      cases found
      have parts : inside = inside.takeWhile Text.isDigit ++ inside.dropWhile Text.isDigit :=
        (List.takeWhile_append_dropWhile).symm
      rw [parts, taken, dropped]
      simp
    · cases found
  · cases found

/-- What follows a mark is shorter than the text. -/
theorem length_of_atHead? {s mark rest : List Char} (found : atHead? s = some (mark, rest)) :
    rest.length < s.length := by
  have parts := congrArg List.length (append_of_atHead? found)
  have : mark ≠ [] := by
    unfold atHead? at found
    split at found
    · split at found
      · cases found; simp
      · cases found
    · cases found
  have := List.length_pos_iff.mpr this
  simp only [List.length_append] at parts
  omega

/-- The first mark in a text. -/
def first? : List Char → Option (List Char)
  | [] => none
  | c :: rest => ((atHead? (c :: rest)).map (·.1)).or (first? rest)

/-- The text without its marks. -/
def erase (s : List Char) : List Char :=
  match _found : atHead? s with
  | some (_, after) => erase after
  | none =>
    match s with
    | [] => []
    | c :: rest => c :: erase rest
  termination_by s.length
  decreasing_by
    · exact length_of_atHead? _found
    · simp

/-- The text with one space for every run of spaces. -/
def squeeze : List Char → List Char
  | ' ' :: ' ' :: rest => squeeze (' ' :: rest)
  | c :: rest => c :: squeeze rest
  | [] => []

/-- The text without the spaces that stand before points. -/
def closeUp : List Char → List Char
  | ' ' :: '.' :: rest => '.' :: closeUp rest
  | c :: rest => c :: closeUp rest
  | [] => []

/-- A name without marks and without the blanks that they leave. -/
def cleanName (name : String) : String :=
  .ofList (closeUp (Text.strip (squeeze (erase name.toList))))

end TagAudit.CopyMark
