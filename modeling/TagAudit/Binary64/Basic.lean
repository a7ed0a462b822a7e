import TagAudit.Binary64.Rounding

/-!
# Double precision numbers

Binary floating point numbers with 53 significant bits, as exact dyadic rationals together with
signed zeros, infinities and the undefined result. Every magnitude has one significand and
exponent, so equal numbers are equal values. Each operation computes exactly and rounds once, to
the nearest number, a tie going to the even significand.
-/

namespace TagAudit

namespace Binary64

/-- The least full significand, two to the power of 52. -/
def leastFull : Nat := 4503599627370496

/-- The form kept for each magnitude: a full significand, or any significand at the least
exponent. -/
def Canonical (significand : Nat) (exponent : Int) : Prop :=
  significand < 2 * leastFull ∧ -1074 ≤ exponent ∧ exponent ≤ 971 ∧
    (leastFull ≤ significand ∨ exponent = -1074)

instance (significand : Nat) (exponent : Int) : Decidable (Canonical significand exponent) :=
  inferInstanceAs (Decidable (_ ∧ _))

end Binary64

/-- A double precision number. -/
inductive Binary64
  /-- The result of an undefined operation. -/
  | nan
  /-- A magnitude beyond all finite ones. -/
  | infinite (negative : Bool)
  /-- The number `± significand · 2 ^ exponent`. -/
  | finite (negative : Bool) (significand : Nat) (exponent : Int)
      (canonical : Binary64.Canonical significand exponent)
  deriving DecidableEq, Repr

namespace Binary64

/-- Zero of either sign. -/
def zero (negative : Bool) : Binary64 := finite negative 0 (-1074) (by decide)

instance : Inhabited Binary64 := ⟨zero false⟩

/-- The number with this significand and exponent, or infinity where the exponent is too large. -/
def ofSignificand (negative : Bool) (significand : Nat) (exponent : Int) : Binary64 :=
  if canonical : Canonical significand exponent then
    finite negative significand exponent canonical
  else
    infinite negative

/-- Is the quotient `num / den` below `2 ^ exponent`? -/
def ratioBelowPower (num den : Nat) (exponent : Int) : Bool :=
  num * twoPow (-exponent).toNat < den * twoPow exponent.toNat

/-- The number nearest to the quotient `num / den` of the given sign. -/
def ofRatio (negative : Bool) (num den : Nat) : Binary64 :=
  if num = 0 then zero negative
  else
    let guess : Int := (num.log2 : Int) - den.log2
    let top := if ratioBelowPower num den guess then guess - 1 else guess
    let exponent := max (top - 52) (-1074)
    let significand := divNearest (num * twoPow (-exponent).toNat) (den * twoPow exponent.toNat)
    if significand = 2 * leastFull then ofSignificand negative leastFull (exponent + 1)
    else ofSignificand negative significand exponent

/-- The number nearest to `± coefficient · 2 ^ exponent`. -/
def ofScaled (negative : Bool) (coefficient : Nat) (exponent : Int) : Binary64 :=
  ofRatio negative (coefficient * twoPow exponent.toNat) (twoPow (-exponent).toNat)

/-- The number nearest to an integer. -/
def ofInt (n : Int) : Binary64 := ofRatio (n < 0) n.natAbs 1

/-- The number nearest to `± coefficient · 10 ^ exponent`. Exponents far outside the range give
zero or infinity at once. -/
def ofDecimal (negative : Bool) (coefficient : Nat) (exponent : Int) : Binary64 :=
  let size : Int := (coefficient.log2 : Int) * 30103 / 100000 + exponent
  if coefficient = 0 ∨ size < -400 then zero negative
  else if 400 < size then infinite negative
  else ofRatio negative (coefficient * tenPow exponent.toNat) (tenPow (-exponent).toNat)

/-- The same magnitude with the opposite sign. -/
def neg : Binary64 → Binary64
  | nan => nan
  | infinite negative => infinite (!negative)
  | finite negative significand exponent canonical =>
    finite (!negative) significand exponent canonical

/-- A natural number with a sign. -/
def signed (negative : Bool) (n : Nat) : Int := if negative then -(n : Int) else n

/-- The rounded sum. An exact zero is negative only if both terms are. -/
def add : Binary64 → Binary64 → Binary64
  | nan, _ => nan
  | _, nan => nan
  | infinite a, infinite b => if a = b then infinite a else nan
  | infinite a, finite .. => infinite a
  | finite .., infinite b => infinite b
  | finite a m p _, finite b n q _ =>
    let low := min p q
    let sum := signed a (m * twoPow (p - low).toNat) + signed b (n * twoPow (q - low).toNat)
    if sum = 0 then zero (a && b) else ofScaled (sum < 0) sum.natAbs low

/-- The rounded difference. -/
def sub (x y : Binary64) : Binary64 := x.add y.neg

/-- The rounded product. -/
def mul : Binary64 → Binary64 → Binary64
  | nan, _ => nan
  | _, nan => nan
  | infinite a, infinite b => infinite (a != b)
  | infinite a, finite b n _ _ => if n = 0 then nan else infinite (a != b)
  | finite a m _ _, infinite b => if m = 0 then nan else infinite (a != b)
  | finite a m p _, finite b n q _ => ofScaled (a != b) (m * n) (p + q)

/-- The rounded quotient. -/
def div : Binary64 → Binary64 → Binary64
  | nan, _ => nan
  | _, nan => nan
  | infinite _, infinite _ => nan
  | infinite a, finite b .. => infinite (a != b)
  | finite a .., infinite b => zero (a != b)
  | finite a m p _, finite b n q _ =>
    if n = 0 then if m = 0 then nan else infinite (a != b)
    else ofRatio (a != b) (m * twoPow (p - q).toNat) (n * twoPow (q - p).toNat)

/-- The number nearest to the one with `places` decimal places that is nearest to `x`. -/
def roundTo (places : Nat) : Binary64 → Binary64
  | nan => nan
  | infinite negative => infinite negative
  | finite negative m q _ =>
    let scaled := m * twoPow q.toNat * tenPow places
    ofRatio negative (divNearest scaled (twoPow (-q).toNat)) (tenPow places)

end Binary64

end TagAudit
