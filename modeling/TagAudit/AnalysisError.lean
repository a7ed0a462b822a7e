/-!
# Failures of analyses

What can keep an analysis from a result: values that have no order, no items or no place as a key
where the export or the configuration makes them be compared, listed or looked up, and faults of
embedded texts.
-/

namespace TagAudit

/-- Why an analysis has no result. -/
inductive AnalysisError
  /-- A value was to be compared with a number and cannot be. -/
  | incomparable
  /-- The parameters of a condition were to be listed and are a number or a truth value. -/
  | notIterable
  /-- An array or an object was to serve as a key. -/
  | compositeKey
  /-- A number of a text cannot be read: it has too many digits, or digits without a place. -/
  | unreadableNumber
  /-- A regular expression asks for two character encodings at once. -/
  | conflictingEncodings
  /-- A regular expression asks for two versions of the checker at once. -/
  | conflictingVersions
  /-- A regular expression names a character property by a number beyond all finite ones. -/
  | infiniteNumber
  /-- A regular expression names a character property by a number that is no short fraction. -/
  | endlessFraction
  deriving DecidableEq, Repr

end TagAudit
