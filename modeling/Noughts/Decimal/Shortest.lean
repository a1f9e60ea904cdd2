import Noughts.Decimal.Binary

/-!
The fewest digits that name a float.

A float stands for all reals that round to it.  The shortest decimal is the one
with the fewest digits among those, and of several the one closest to the float.
The search compares naturals only, so it is exact: it takes the grids of powers
of ten from the coarsest and tests the two neighbours of the float on each.
-/

namespace Noughts
namespace Decimal

/-- Compares `a * 10 ^ i` with `n * 2 ^ j`. -/
def compareScaled (a : Nat) (i : Int) (n : Nat) (j : Int) : Ordering :=
  compare (a * power 10 i * power 2 (-j)) (n * power 2 j * power 10 (-i))

namespace Binary

/-- Whether `d * 10 ^ k` rounds to a float.  The halfway points belong to the
float whose significand is even. -/
def readsBack (x : Binary) (d : Nat) (k : Int) : Bool :=
  let low := if x.isNarrowBelow then 4 * x.significand - 1 else 4 * x.significand - 2
  let high := 4 * x.significand + 2
  let even := x.significand % 2 = 0
  let above := compareScaled d k low (x.exponent - 2)
  let below := compareScaled d k high (x.exponent - 2)
  (above = .gt || (even && above = .eq)) && (below = .lt || (even && below = .eq))

/-- A multiple of `10 ^ k` that rounds to a float, the closer of two and the even
of two as close. -/
def onGrid? (x : Binary) (k : Int) : Option Nat :=
  let d := x.num * power 10 (-k) / (x.den * power 10 k)
  match x.readsBack d k, x.readsBack (d + 1) k with
  | true, true =>
    match compareScaled (2 * d + 1) k (2 * x.significand) x.exponent with
    | .gt => some d
    | .eq => some (d + d % 2)
    | .lt => some (d + 1)
  | true, false => some d
  | false, true => some (d + 1)
  | false, false => none

/-- Tries so many grids, each ten times as fine as the one before. -/
def search (x : Binary) : Nat → Int → Option (Nat × Int)
  | 0, _ => none
  | tries + 1, k =>
    match x.onGrid? k with
    | some d => some (d, k)
    | none => x.search tries (k - 1)

/-- The exponent of a grid that is wider than the float.  The logarithm of two is
taken as 30103 / 100000, which is a little too much. -/
def coarsest (x : Binary) : Int :=
  ((x.significand.log2 : Int) + x.exponent + 1) * 30103 / 100000 + 2

/-- The shortest decimal `d * 10 ^ k` that rounds to a float, and zero for zero.
A few more grids than seventeen always suffice. -/
def shortest (x : Binary) : Nat × Int :=
  if x.significand = 0 then (0, 0) else (x.search 24 x.coarsest).getD (0, 0)

end Binary
end Decimal
end Noughts
