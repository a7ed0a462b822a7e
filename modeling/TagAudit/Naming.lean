import TagAudit.Config.Basic
import TagAudit.Text.Search

/-!
# Names of entities

The rules for names of tags, triggers and variables, and the snake case name that is suggested
where a rule is broken. A line break at the very end of a name counts neither against its case nor
against its characters.
-/

namespace TagAudit.Naming

/-- A broken naming rule. -/
inductive Fault
  | badStart
  | blank
  | tooShort (least : Nat)
  | tooLong (most : Nat)
  | badCase
  | badCharacter
  deriving DecidableEq, Repr

/-- The words for a broken rule. -/
def Fault.message : Fault → String
  | badStart => "must start with a letter or underscore"
  | blank => "contains whitespace"
  | tooShort least => s!"shorter than {least} characters"
  | tooLong most => s!"longer than {most} characters"
  | badCase => "not snake_case or camelCase"
  | badCharacter => "contains characters outside [A-Za-z0-9_-]"

/-- The name without a line break at its very end. -/
def withoutFinalBreak (name : List Char) : List Char :=
  if name.getLast? = some '\n' then name.dropLast else name

/-- Is the name, after any underscores, a lower case letter followed by lower case letters, digits
and underscores, or by letters of either case and digits? -/
def isSnakeOrCamel (name : List Char) : Bool :=
  match (withoutFinalBreak name).dropWhile (· == '_') with
  | [] => false
  | first :: rest =>
    first.isLower &&
      (rest.all (fun c => c.isLower || c.isDigit || c == '_') || rest.all Char.isAlphanum)

/-- The naming rules that a name breaks, in their order. -/
def faults (config : Config) (name : String) : List Fault :=
  let chars := name.toList
  let rule (broken : Bool) (fault : Fault) : List Fault := if broken then [fault] else []
  rule (!chars.head?.any fun c => c.isAlpha || c == '_') .badStart ++
    rule (chars.any Text.isBlank) .blank ++
    rule (chars.length < config.nameMinLength) (.tooShort config.nameMinLength) ++
    rule (config.nameMaxLength < chars.length) (.tooLong config.nameMaxLength) ++
    rule (!isSnakeOrCamel chars) .badCase ++
    rule (!(withoutFinalBreak chars).all fun c => c.isAlphanum || c == '_' || c == '-')
      .badCharacter

/-- The words for the broken rules of a name. -/
def violations (config : Config) (name : String) : List String :=
  (faults config name).map Fault.message

/-- The text with an underscore before every capital that follows a lower case letter or digit. -/
def splitHumps : List Char → List Char
  | a :: b :: rest =>
    if (a.isLower || a.isDigit) && b.isUpper then a :: '_' :: splitHumps (b :: rest)
    else a :: splitHumps (b :: rest)
  | short => short

/-- The words of a name, in lower case: its runs of letters and digits. -/
def words (name : List Char) : List (List Char) :=
  ((Text.splitAt (!·.isAlphanum) (splitHumps name)).filter (!·.isEmpty)).map (·.map Char.toLower)

/-- The longest suggestion. -/
def maxSuggestionLength : Nat := 50

/-- The snake case name of some words: it starts with a letter, and a name that would be too short
says what it names. -/
def snakeCase (words : List (List Char)) : List Char :=
  let joined := (words.intersperse ['_']).flatten
  let named := if joined.isEmpty then "tag".toList else joined
  let lettered := if named.head?.any Char.isAlpha then named else "tag_".toList ++ named
  let filled := if lettered.length < 3 then lettered ++ "_tag".toList else lettered
  Text.trimEnd (· == '_') (filled.take maxSuggestionLength)

/-- The name suggested for an entity. -/
def suggestion (name : String) : String := .ofList (snakeCase (words name.toList))

end TagAudit.Naming
