/-!
# Log records

What an analysis has to say about its own course: a level, the name of the speaking part and a
line of text. Records are values, listed in the order in which they arise.
-/

namespace TagAudit

/-- How important a record is. -/
inductive LogLevel
  | debug
  | info
  | warning
  | error
  deriving DecidableEq, Repr, Inhabited

namespace LogLevel

/-- The name of a level. -/
def name : LogLevel → String
  | debug => "DEBUG"
  | info => "INFO"
  | warning => "WARNING"
  | error => "ERROR"

/-- The order of the levels. -/
def rank : LogLevel → Nat
  | debug => 0
  | info => 1
  | warning => 2
  | error => 3

/-- The level of a name. -/
def ofName? (name : String) : Option LogLevel :=
  [debug, info, warning, error].find? (·.name == name)

end LogLevel

/-- One line of the log. -/
structure LogRecord where
  level : LogLevel
  speaker : String
  message : String
  deriving DecidableEq, Repr

namespace LogRecord

/-- The written form of a record. -/
def line (record : LogRecord) : String :=
  s!"{record.level.name} {record.speaker}: {record.message}"

/-- The lines of the records at a level and above. -/
def linesFrom (level : LogLevel) (records : List LogRecord) : List String :=
  (records.filter fun record => level.rank ≤ record.level.rank).map line

end LogRecord

end TagAudit
