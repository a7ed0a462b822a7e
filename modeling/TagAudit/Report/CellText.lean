import TagAudit.Report.Cell

/-!
# Texts of cells

The numbers of a column that are no integers share the decimals that the column needs, at least
one and at most six; where that shows too little of them, all of them are written with exponents.
Among values of several kinds a number stands for itself, with a blank for its sign, and arrays
and objects are written in short: strings of an array without quotes, those of an object in
quotes, at most a hundred items and at most three levels.
-/

namespace TagAudit.Report

/-- The greatest of some lengths. -/
def greatest (lengths : List Nat) : Nat := lengths.foldl max 0

/-- The places after the point that are written at most. -/
def maxPlaces : Nat := 6

namespace Cell

/-- A text in a single line. -/
def singleLine (s : String) : String :=
  .ofList <| s.toList.flatMap fun c =>
    match c with
    | '\t' => ['\\', 't']
    | '\n' => ['\\', 'n']
    | '\r' => ['\\', 'r']
    | c => [c]

/-- Is the number finite? -/
def isFinite : Binary64 → Bool
  | .finite .. => true
  | _ => false

/-- Is a number further from zero than a limit? -/
def isBeyond (limit : Number) (x : Binary64) : Bool :=
  limit.lt (.float x) || limit.lt (.float x.neg)

/-- A number in some format, or the name of the undefined one. -/
def numberText (format : Binary64 → String) (x : Binary64) : String :=
  if x = .nan then "NaN" else format x

/-- The decimals that the text of a number with the most places needs. -/
def neededPlaces (text : String) : Nat :=
  maxPlaces - (text.toList.reverse.takeWhile (· == '0')).length

/-- Numbers with the decimals that they all need. -/
def decimalTexts (cells : List Binary64) : List String :=
  let full := fun x : Binary64 => x.fixedText maxPlaces
  let needed := greatest ((cells.filter isFinite).map fun x => neededPlaces (full x))
  let unneeded := maxPlaces - max 1 needed
  cells.map fun x =>
    if isFinite x then .ofList ((full x).toList.take ((full x).length - unneeded))
    else numberText full x

/-- The texts of numbers. -/
def numberTexts (cells : List Binary64) : List String :=
  let decimals := decimalTexts cells
  let tiny := cells.any fun x =>
    isBeyond (.int 0) x && !isBeyond (.decimal 1 (-6)) x && x != .ofDecimal false 1 (-6) &&
      x != .ofDecimal true 1 (-6)
  let long := 2 * maxPlaces < greatest (decimals.map String.length)
  if tiny || (long && cells.any (isBeyond (.decimal 1 6))) then
    cells.map (numberText fun x => x.scientificText maxPlaces)
  else decimals

/-- A number among values of other kinds: a blank or a minus, and the decimals that it needs. -/
def loneNumberText (x : Binary64) : String :=
  let shortened := fun s : String => String.ofList <|
    let digits := (s.toList.reverse.dropWhile (· == '0')).reverse
    if digits.getLast? = some '.' then digits ++ ['0'] else digits
  let signed := fun s : String => if s.startsWith "-" then s else s!" {s}"
  signed (shortened (x.fixedText maxPlaces))

/-- The most items that are written. -/
def maxItems : Nat := 100

/-- The most levels that are written. -/
def maxLevels : Nat := 3

/-- Texts of items between brackets; after the most items stand three points. -/
def bracketed (opening closing : String) (items : List String) : String :=
  let shown := items.take maxItems
  let more := if maxItems < items.length then ", ..." else ""
  opening ++ ", ".intercalate shown ++ more ++ closing

mutual

/-- A value below so many levels, its strings in quotes or not. -/
def nestedText (quoted : Bool) (level : Nat) : Json → String
  | .string s => if quoted then s!"'{s}'" else singleLine s
  | .array items =>
    if level < maxLevels then bracketed "[" "]" (itemTexts quoted (level + 1) items)
    else (Json.array items).display
  | .object members =>
    if level < maxLevels then bracketed "\x7b" "\x7d" (memberTexts (level + 1) members)
    else (Json.object members).display
  | .null => "None"
  | .bool b => (Json.bool b).display
  | .number x => x.text

/-- The items of an array. -/
def itemTexts (quoted : Bool) (level : Nat) : List Json → List String
  | [] => []
  | item :: rest => nestedText quoted level item :: itemTexts quoted level rest

/-- The members of an object, whose strings are in quotes. -/
def memberTexts (level : Nat) : List (String × Json) → List String
  | [] => []
  | (key, value) :: rest => s!"'{key}': {nestedText true level value}" :: memberTexts level rest

end

/-- A cell among values of several kinds. -/
def valueText : Json → String
  | .number (.float x) => if x = .nan then "NaN" else loneNumberText x
  | cell => nestedText false 0 cell

end Cell

/-- The texts of the cells of a column. -/
def ColumnKind.texts (kind : ColumnKind) (cells : List Json) : List String :=
  match kind with
  | values => cells.map Cell.valueText
  | numbers => Cell.numberTexts (cells.map fun cell => (cell.number?.map (·.toBinary64)).getD .nan)
  | integers | truths => cells.map Json.display

end TagAudit.Report
