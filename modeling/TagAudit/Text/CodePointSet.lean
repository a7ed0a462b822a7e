/-!
# Sets of code points

A property of characters is stored as the increasing list of code points at which it changes
from false to true and back. Membership walks the list only as far as the character asked for,
so questions about the first few code points are answered by the first few entries.
-/

namespace TagAudit.Text

/-- The code points at which membership changes, in increasing order. -/
structure CodePointSet where
  /-- Membership starts false before the first entry and flips at each entry. -/
  flips : List Nat
  deriving DecidableEq, Repr

namespace CodePointSet

/-- Is code point `n` on the inside, when the points before the listed flips are `inside`? -/
def insideAfter (inside : Bool) (n : Nat) : List Nat → Bool
  | [] => inside
  | flip :: flips => if n < flip then inside else insideAfter (!inside) n flips

/-- Membership of a character. -/
def contains (set : CodePointSet) (c : Char) : Bool :=
  insideAfter false c.toNat set.flips

end CodePointSet

end TagAudit.Text
