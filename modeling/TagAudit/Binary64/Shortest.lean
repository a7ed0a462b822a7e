import TagAudit.Binary64.Basic

/-!
# Shortest decimal text

The decimal text of a double precision number: the fewest significant digits that read back as
the number, and among those the ones nearest to it. Powers from `10 ^ -4` up to below `10 ^ 16`
are written out, others with an exponent of at least two digits.
-/

namespace TagAudit

/-- The number `coefficient · 10 ^ exponent`. -/
structure Decimal where
  coefficient : Nat
  exponent : Int
  deriving DecidableEq, Repr

namespace Decimal

/-- Drops trailing zeros of the coefficient, at most `fuel` of them. -/
def normalize (d : Decimal) : (fuel : Nat) → Decimal
  | 0 => d
  | fuel + 1 =>
    if d.coefficient ≠ 0 ∧ d.coefficient % 10 = 0 then
      normalize ⟨d.coefficient / 10, d.exponent + 1⟩ fuel
    else d

/-- The text of a positive number: written out where the leading digit stands between the fourth
place after the point and the sixteenth before it, with an exponent otherwise. -/
def text (d : Decimal) : String :=
  let digits := Nat.toDigits 10 d.coefficient
  let point : Int := digits.length + d.exponent
  .ofList <|
    if -4 < point ∧ point ≤ 16 then
      if point ≤ 0 then '0' :: '.' :: (List.replicate (-point).toNat '0' ++ digits)
      else if digits.length ≤ point.toNat then
        digits ++ List.replicate (point.toNat - digits.length) '0' ++ ['.', '0']
      else digits.take point.toNat ++ '.' :: digits.drop point.toNat
    else
      let power := point - 1
      let magnitude := Nat.toDigits 10 power.natAbs
      let fraction := digits.drop 1
      digits.take 1 ++ (if fraction.isEmpty then [] else '.' :: fraction) ++
        ['e', if power < 0 then '-' else '+'] ++
        (if magnitude.length < 2 then '0' :: magnitude else magnitude)

end Decimal

namespace Binary64

/-- A quotient of natural numbers compared with points of a decimal grid. -/
structure Ratio where
  num : Nat
  den : Nat

/-- Is the quotient at most `c · 10 ^ g`? -/
def Ratio.le (r : Ratio) (c : Nat) (g : Int) : Bool :=
  r.num * tenPow (-g).toNat ≤ c * tenPow g.toNat * r.den

/-- Is the quotient at least `c · 10 ^ g`? -/
def Ratio.ge (r : Ratio) (c : Nat) (g : Int) : Bool :=
  c * tenPow g.toNat * r.den ≤ r.num * tenPow (-g).toNat

/-- The greatest grid point number at or below the quotient. -/
def Ratio.floor (r : Ratio) (g : Int) : Nat :=
  r.num * tenPow (-g).toNat / (r.den * tenPow g.toNat)

/-- The power of ten of the leading digit of a positive quotient near `2 ^ power`. -/
def Ratio.leadingPower (r : Ratio) (power : Int) : Int :=
  let guess := power * 30103 / 100000
  if r.ge 1 (guess + 1) then guess + 1
  else if r.ge 1 guess then guess
  else guess - 1

/-- The shortest decimal that reads back as the finite positive number `m · 2 ^ q`. The numbers
that round to it lie between the midpoints to its two neighbours, the midpoints themselves
included when the significand is even; the lower neighbour of a power of two is twice as near. -/
def shortest (m : Nat) (q : Int) : Decimal :=
  let unit := q - 2
  let scaled (n : Nat) : Ratio := ⟨n * twoPow unit.toNat, twoPow (-unit).toNat⟩
  let value := scaled (4 * m)
  let low := scaled (if m = leastFull ∧ -1074 < q then 4 * m - 1 else 4 * m - 2)
  let high := scaled (4 * m + 2)
  let reads (c : Nat) (g : Int) : Bool :=
    if m % 2 = 0 then low.le c g && high.ge c g else !low.ge c g && !high.le c g
  let top := value.leadingPower (m.log2 + q)
  let candidate (count : Nat) : Option Decimal :=
    let g := top - count
    let below := value.floor g
    let above := below + 1
    if reads below g then
      if reads above g then
        let half := 2 * below + 1
        let doubled : Ratio := ⟨2 * value.num, value.den⟩
        if doubled.le half g then
          if doubled.ge half g ∧ below % 2 = 1 then some ⟨above, g⟩ else some ⟨below, g⟩
        else some ⟨above, g⟩
      else some ⟨below, g⟩
    else if reads above g then some ⟨above, g⟩
    else none
  (((List.range 17).findSome? candidate).getD ⟨value.floor (top - 17), top - 17⟩).normalize 20

/-- The decimal text of a number. -/
def text : Binary64 → String
  | nan => "nan"
  | infinite negative => if negative then "-inf" else "inf"
  | finite negative m q _ =>
    (if negative then "-" else "") ++ if m = 0 then "0.0" else (shortest m q).text

/-- The text with exactly `places` digits after the point. -/
def fixedText (places : Nat) : Binary64 → String
  | nan => "nan"
  | infinite negative => if negative then "-inf" else "inf"
  | finite negative m q _ =>
    let scaled := divNearest (m * twoPow q.toNat * tenPow places) (twoPow (-q).toNat)
    let fraction := Nat.toDigits 10 (scaled % tenPow places)
    (if negative then "-" else "") ++ toString (scaled / tenPow places) ++
      if places = 0 then "" else
        "." ++ .ofList (List.replicate (places - fraction.length) '0' ++ fraction)

/-- An exponent of ten as it is written, with a sign and at least two digits. -/
def exponentText (e : Int) : String :=
  (if e < 0 then "-" else "+") ++ (if e.natAbs < 10 then "0" else "") ++ toString e.natAbs

/-- The text with one digit before the point, `places` after it, and an exponent of ten. -/
def scientificText (places : Nat) : Binary64 → String
  | nan => "nan"
  | infinite negative => if negative then "-inf" else "inf"
  | finite negative m q _ =>
    let value : Ratio := ⟨m * twoPow q.toNat, twoPow (-q).toNat⟩
    let top := if m = 0 then 0 else value.leadingPower (m.log2 + q)
    let g := top - places
    let rounded := divNearest (value.num * tenPow (-g).toNat) (value.den * tenPow g.toNat)
    let (digits, power) :=
      if rounded = tenPow (places + 1) then (tenPow places, top + 1) else (rounded, top)
    let fraction := Nat.toDigits 10 (digits % tenPow places)
    (if negative then "-" else "") ++ toString (digits / tenPow places) ++
      (if places = 0 then "" else
        "." ++ .ofList (List.replicate (places - fraction.length) '0' ++ fraction)) ++
      "e" ++ exponentText power

example : (ofDecimal false 1 (-1)).text = "0.1" := by decide +kernel
example : (ofDecimal false 5 (-324)).text = "5e-324" := by decide +kernel
example : (ofDecimal false 1 16).text = "1e+16" := by decide +kernel
example : ((ofDecimal false 1 (-1)).add (ofDecimal false 2 (-1))).text = "0.30000000000000004" := by
  decide +kernel
example : (ofDecimal false 1 (-7)).scientificText 6 = "1.000000e-07" := by decide +kernel
example : (ofDecimal false 99999995 (-1)).scientificText 6 = "1.000000e+07" := by decide +kernel
example : ((ofDecimal false 2675 (-3)).roundTo 2).text = "2.67" := by decide +kernel

end Binary64

end TagAudit
