import TagAudit.Text.LetterCase
import TagAudit.Text.Word
import TagAudit.Text.Digit
import TagAudit.Text.Search

/-!
# Text patterns

Patterns that are tried at a place in a text, alternatives in order and runs as long as possible
first, giving back one character at a time. The search reports the first place where the pattern
holds, and repeated searches go on after each finding. Whether a pattern holds may depend on the
character before the place and on the text after it.
-/

namespace TagAudit

/-- A pattern of text. -/
inductive Pattern
  /-- Holds everywhere and takes nothing. -/
  | empty
  /-- One character of a class. -/
  | char (cls : Char → Bool)
  /-- At least `least` characters of a class, as many as possible first. -/
  | run (cls : Char → Bool) (least : Nat)
  /-- One pattern and then another. -/
  | seq (first second : Pattern)
  /-- The first pattern, or else the second. -/
  | alt (first second : Pattern)
  /-- The pattern must hold here, but takes nothing. -/
  | ahead (inner : Pattern)
  /-- The pattern must not hold here. -/
  | notAhead (inner : Pattern)
  /-- The character before this place is of a class. -/
  | after (cls : Char → Bool)
  /-- No character of a class stands before this place. -/
  | notAfter (cls : Char → Bool)
  /-- A word begins or ends here. -/
  | wordEdge
  /-- Remembers the text that the pattern takes. -/
  | capture (inner : Pattern)

namespace Pattern

/-- A place in a text. -/
structure Cursor where
  /-- The text before the place, reversed. -/
  before : List Char
  /-- The text after the place. -/
  rest : List Char
  /-- The text last remembered on the way here. -/
  captured : List Char := []
  deriving DecidableEq, Repr

namespace Cursor

/-- The beginning of a text. -/
def start (s : List Char) : Cursor := ⟨[], s, []⟩

/-- Is the character before the place of a class? -/
def previousIs (cls : Char → Bool) (place : Cursor) : Bool := place.before.head?.any cls

/-- Is the character after the place of a class? -/
def nextIs (cls : Char → Bool) (place : Cursor) : Bool := place.rest.head?.any cls

/-- The text between two places of one text. -/
def textSince (place later : Cursor) : List Char :=
  (later.before.take (later.before.length - place.before.length)).reverse

end Cursor

/-- Takes a run of a class and goes on, preferring the longest run. -/
def tryRun {β : Type} (cls : Char → Bool) (goOn : List Char → List Char → Option β) :
    (least : Nat) → (before rest : List Char) → Option β
  | least, before, [] => if least = 0 then goOn before [] else none
  | least, before, c :: rest =>
    let here := fun _ => if least = 0 then goOn before (c :: rest) else none
    if cls c then (tryRun cls goOn (least - 1) (c :: before) rest).orElse here else here ()

/-- The first way to hold at a place after which `goOn` succeeds. -/
def tryAt {β : Type} : Pattern → Cursor → (goOn : Cursor → Option β) → Option β
  | empty, place, goOn => goOn place
  | char cls, place, goOn =>
    match place.rest with
    | [] => none
    | c :: rest => if cls c then goOn ⟨c :: place.before, rest, place.captured⟩ else none
  | run cls least, place, goOn =>
    tryRun cls (fun before rest => goOn ⟨before, rest, place.captured⟩) least
      place.before place.rest
  | seq first second, place, goOn =>
    first.tryAt place fun middle => second.tryAt middle goOn
  | alt first second, place, goOn =>
    (first.tryAt place goOn).orElse fun _ => second.tryAt place goOn
  | ahead inner, place, goOn =>
    if (inner.tryAt place fun _ => some ()).isSome then goOn place else none
  | notAhead inner, place, goOn =>
    if (inner.tryAt place fun _ => some ()).isSome then none else goOn place
  | after cls, place, goOn => if place.previousIs cls then goOn place else none
  | notAfter cls, place, goOn => if place.previousIs cls then none else goOn place
  | wordEdge, place, goOn =>
    if place.previousIs Text.isWord != place.nextIs Text.isWord then goOn place else none
  | capture inner, place, goOn =>
    inner.tryAt place fun later => goOn ⟨later.before, later.rest, place.textSince later⟩

/-- The place where the pattern ends if it holds at a place. -/
def endAt? (p : Pattern) (place : Cursor) : Option Cursor := p.tryAt place some

/-- Does the pattern hold at a place? -/
def holdsAt (p : Pattern) (place : Cursor) : Bool := (p.endAt? place).isSome

/-- A finding: where the pattern begins and where it ends. -/
structure Finding where
  start : Cursor
  stop : Cursor
  deriving DecidableEq, Repr

/-- The first finding at or after a place. -/
def findFrom? (p : Pattern) (before : List Char) : List Char → Option Finding
  | [] => (p.endAt? ⟨before, [], []⟩).map fun stop => ⟨⟨before, [], []⟩, stop⟩
  | c :: rest =>
    match p.endAt? ⟨before, c :: rest, []⟩ with
    | some stop => some ⟨⟨before, c :: rest, []⟩, stop⟩
    | none => findFrom? p (c :: before) rest

/-- The first finding in a text. -/
def find? (p : Pattern) (s : List Char) : Option Finding := p.findFrom? [] s

/-- Does the pattern hold anywhere in the text? -/
def occursIn (p : Pattern) (s : List Char) : Bool := (p.find? s).isSome

/-- The findings after a place, each search starting where the last finding ended; for patterns
that take at least one character. -/
def findAllFrom (p : Pattern) (before rest : List Char) : List Finding :=
  match p.findFrom? before rest with
  | none => []
  | some finding =>
    if finding.stop.rest.length < rest.length then
      finding :: findAllFrom p finding.stop.before finding.stop.rest
    else [finding]
  termination_by rest.length

/-- The findings in a text that do not overlap, from the left. -/
def findAll (p : Pattern) (s : List Char) : List Finding := p.findAllFrom [] s

/-- The text with every finding of the pattern replaced. -/
def replaceAll (p : Pattern) (replacement s : List Char) : List Char :=
  let replaceNext := fun ((done, rest) : List Char × List Char) (finding : Finding) =>
    let kept := rest.take (rest.length - finding.start.rest.length)
    (done ++ kept ++ replacement, finding.stop.rest)
  let (done, rest) := (p.findAll s).foldl replaceNext ([], s)
  done ++ rest

/-- Patterns one after the other. -/
def all (patterns : List Pattern) : Pattern := patterns.foldr seq empty

/-- The first of several patterns that holds. -/
def any : List Pattern → Pattern
  | [] => notAhead empty
  | [p] => p
  | p :: rest => alt p (any rest)

/-- The pattern, or nothing. -/
def optional (p : Pattern) : Pattern := alt p empty

/-- The pattern so many times. -/
def times (p : Pattern) (count : Nat) : Pattern := all (List.replicate count p)

/-- The pattern up to so many times, as often as possible first. -/
def upTo (p : Pattern) : (count : Nat) → Pattern
  | 0 => empty
  | count + 1 => optional (seq p (upTo p count))

/-- The characters of a text. -/
def word (s : String) : Pattern := all (s.toList.map fun c => char (· == c))

/-- The characters of a lower case text, in any letter case. -/
def anyCase (s : String) : Pattern := all (s.toList.map fun c => char (Text.fold · == c))

/-- White space, possibly none. -/
def blanks : Pattern := run Text.isBlank 0

end Pattern

end TagAudit
