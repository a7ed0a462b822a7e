import TagAudit.Binary64.Shortest

/-!
# Numbers

A number is an exact integer or a double precision number, and keeps that form: integers stay
exact under sums, differences and products, and everything else is computed in double precision.
An integer that is too large for a double is taken for an infinite one there, where a machine gives
up; so what is computed with such integers is not to be relied on. Comparisons are always exact,
whatever the two forms. Formulas that are to be read both in this arithmetic and in exact rationals
are written over the class `Scalar`.
-/

namespace TagAudit

/-- An exact integer or a double precision number. -/
inductive Number
  | int (value : Int)
  | float (value : Binary64)
  deriving DecidableEq, Repr, Inhabited

namespace Number

/-- The position of a number on the extended line. -/
inductive Place
  /-- On no place of the line. -/
  | nowhere
  /-- Beyond all finite numbers on one side. -/
  | infinite (negative : Bool)
  /-- At `coefficient · 2 ^ exponent`. -/
  | dyadic (coefficient : Int) (exponent : Int)
  deriving DecidableEq, Repr

/-- Compares two positions; nothing compares with the undefined number. -/
def Place.compare? : Place → Place → Option Ordering
  | .nowhere, _ => none
  | _, .nowhere => none
  | .infinite a, .infinite b => some (if a = b then .eq else if a then .lt else .gt)
  | .infinite a, .dyadic .. => some (if a then .lt else .gt)
  | .dyadic .., .infinite b => some (if b then .gt else .lt)
  | .dyadic m p, .dyadic n q =>
    let low := min p q
    some (compare (m * twoPow (p - low).toNat) (n * twoPow (q - low).toNat))

/-- Where a number lies. -/
def place : Number → Place
  | int n => .dyadic n 0
  | float .nan => .nowhere
  | float (.infinite negative) => .infinite negative
  | float (.finite negative m q _) => .dyadic (Binary64.signed negative m) q

/-- Exact comparison of two numbers. -/
def compare? (x y : Number) : Option Ordering := x.place.compare? y.place

/-- Is `x` less than `y`? -/
def lt (x y : Number) : Bool := x.compare? y == some .lt

/-- Is `x` at most `y`? -/
def le (x y : Number) : Bool := x.lt y || x.compare? y == some .eq

/-- Do the two numbers have the same value, whatever their forms? -/
def same (x y : Number) : Bool := x.compare? y == some .eq

/-- The nearest double precision number; an infinite one for an integer beyond them all. -/
def toBinary64 : Number → Binary64
  | int n => .ofInt n
  | float x => x

/-- The double precision number nearest to `coefficient · 10 ^ exponent`. -/
def decimal (coefficient : Nat) (exponent : Int) : Number :=
  float (.ofDecimal false coefficient exponent)

/-- The sum, exact for integers. -/
def add : Number → Number → Number
  | int m, int n => int (m + n)
  | x, y => float (x.toBinary64.add y.toBinary64)

/-- The difference, exact for integers. -/
def sub : Number → Number → Number
  | int m, int n => int (m - n)
  | x, y => float (x.toBinary64.sub y.toBinary64)

/-- The product, exact for integers. -/
def mul : Number → Number → Number
  | int m, int n => int (m * n)
  | x, y => float (x.toBinary64.mul y.toBinary64)

/-- The quotient in double precision; the quotient of two integers is rounded once. -/
def div : Number → Number → Number
  | int m, int n =>
    if n = 0 then float ((Binary64.ofInt m).div (.ofInt n))
    else float (.ofRatio (decide (m < 0) != decide (n < 0)) m.natAbs n.natAbs)
  | x, y => float (x.toBinary64.div y.toBinary64)

/-- Rounded to `places` decimal places. -/
def roundTo (places : Nat) (x : Number) : Number := float (x.toBinary64.roundTo places)

/-- The decimal text of a number. -/
def text : Number → String
  | int n => toString n
  | float x => x.text

/-- Is the number zero? -/
def isZero (x : Number) : Bool := x.same (int 0)

end Number

/-- Arithmetic in which scores are computed: the program's own numbers, or exact rationals. -/
class Scalar (α : Type) extends Add α, Sub α, Mul α, Div α where
  /-- The scalar that a number stands for. -/
  ofNumber : Number → α
  /-- Strict order. -/
  lt : α → α → Bool
  /-- Order. -/
  le : α → α → Bool

instance : Scalar Number where
  add := Number.add
  sub := Number.sub
  mul := Number.mul
  div := Number.div
  ofNumber x := x
  lt := Number.lt
  le := Number.le

namespace Scalar

variable {α : Type} [Scalar α]

/-- An exact whole number. -/
def ofNat (n : Nat) : α := ofNumber (.int n)

/-- The number `coefficient · 10 ^ exponent` in double precision. -/
def decimal (coefficient : Nat) (exponent : Int) : α := ofNumber (.decimal coefficient exponent)

/-- The sum of a list, from the left. -/
def sum (xs : List α) : α := xs.foldl (· + ·) (ofNat 0)

/-- `x` where it lies above the floor, the floor otherwise. -/
def atLeast (least x : α) : α := if lt least x then x else least

/-- `x` where it lies below the ceiling, the ceiling otherwise. -/
def atMost (most x : α) : α := if lt x most then x else most

/-- `x` moved into the interval from `least` to `most`. -/
def clamp (least most x : α) : α := atMost most (atLeast least x)

end Scalar

end TagAudit
