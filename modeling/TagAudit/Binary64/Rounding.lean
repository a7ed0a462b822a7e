/-!
# Rounding to nearest

Powers of two and ten, and division of natural numbers rounded to the nearest quotient, a tie
going to the even neighbour. The result is never further than half a unit from the exact quotient.
-/

namespace TagAudit

/-- Two to the power of `n`. -/
def twoPow (n : Nat) : Nat := Nat.pow 2 n

/-- Ten to the power of `n`. -/
def tenPow (n : Nat) : Nat := Nat.pow 10 n

/-- Powers of two are positive. -/
theorem twoPow_pos (n : Nat) : 0 < twoPow n := Nat.pow_pos (by decide)

/-- Powers of ten are positive. -/
theorem tenPow_pos (n : Nat) : 0 < tenPow n := Nat.pow_pos (by decide)

/-- The quotient nearest to `num / den`; of two equally near ones the even one. -/
def divNearest (num den : Nat) : Nat :=
  let quotient := num / den
  let remainder := num % den
  if 2 * remainder < den then quotient
  else if den < 2 * remainder then quotient + 1
  else if quotient % 2 = 0 then quotient
  else quotient + 1

/-- The rounded quotient is at most half a unit too large. -/
theorem two_mul_divNearest_mul_le (num : Nat) {den : Nat} (pos : 0 < den) :
    2 * (divNearest num den * den) ≤ 2 * num + den := by
  have split := Nat.div_add_mod num den
  have commuted : num / den * den = den * (num / den) := Nat.mul_comm ..
  unfold divNearest
  dsimp only
  split
  · omega
  · split
    · rw [Nat.add_mul]; omega
    · split
      · omega
      · rw [Nat.add_mul]; omega

/-- The rounded quotient is at most half a unit too small. -/
theorem two_mul_le_two_mul_divNearest_mul (num : Nat) {den : Nat} (pos : 0 < den) :
    2 * num ≤ 2 * (divNearest num den * den) + den := by
  have split := Nat.div_add_mod num den
  have small := Nat.mod_lt num pos
  have commuted : num / den * den = den * (num / den) := Nat.mul_comm ..
  unfold divNearest
  dsimp only
  split
  · omega
  · split
    · rw [Nat.add_mul]; omega
    · split
      · omega
      · rw [Nat.add_mul]; omega

end TagAudit
