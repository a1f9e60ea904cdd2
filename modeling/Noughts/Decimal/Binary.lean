/-!
Floats of 64 bits, as exact numbers.

A float is a whole number of steps of a power of two, and at most 53 bits long.
Every operation takes its exact result, a quotient of two naturals, to the float
nearest to it (`Binary.nearest?`).  There is no float beyond the largest one, so
an operation whose result would lie there has no value.
-/

namespace Noughts
namespace Decimal

/-- The float `significand * 2 ^ exponent`.  The sign is kept elsewhere. -/
structure Binary where
  significand : Nat
  exponent : Int
deriving DecidableEq, Repr

/-- A power of the base, and one where the exponent is negative. -/
def power (base : Nat) (exponent : Int) : Nat :=
  Nat.pow base exponent.toNat

/-- The quotient of two naturals to the nearest whole number, a half to the even
one. -/
def divideToEven (num den : Nat) : Nat :=
  let below := num / den
  match compare (2 * (num % den)) den with
  | .lt => below
  | .eq => below + below % 2
  | .gt => below + 1

/-- The exponent of the greatest power of two that is not greater than `num / den`. -/
def floorLog (num den : Nat) : Int :=
  let e : Int := (num.log2 : Int) - den.log2
  if den * power 2 e ≤ num * power 2 (-e) then e else e - 1

namespace Binary

def zero : Binary :=
  ⟨0, -1074⟩

/-- Floats of the same power of two are one step apart, and half a step below
the power itself, unless its steps are the smallest already. -/
def isNarrowBelow (x : Binary) : Bool :=
  x.significand = 0x10000000000000 && -1074 < x.exponent

/-- The float nearest to `num / den`, and of two as near the one with the even
significand. -/
def nearest? (num den : Nat) : Option Binary :=
  let e := max (floorLog num den - 52) (-1074)
  let n := divideToEven (num * power 2 (-e)) (den * power 2 e)
  let x : Binary :=
    if n = 0 then zero
    else if n = 0x20000000000000 then ⟨0x10000000000000, e + 1⟩
    else ⟨n, e⟩
  if x.exponent ≤ 971 then some x else none

/-- The value of a float is `num / den`. -/
def num (x : Binary) : Nat :=
  x.significand * power 2 x.exponent

def den (x : Binary) : Nat :=
  power 2 (-x.exponent)

def times? (x y : Binary) : Option Binary :=
  nearest? (x.num * y.num) (x.den * y.den)

def dividedBy? (x y : Binary) : Option Binary :=
  nearest? (x.num * y.den) (x.den * y.num)

/-- Moves the decimal point of a float: `x * 10 ^ places`, by one power of ten
that has a float, and by more of them to the right if one is not enough.  Every
step rounds. -/
def shift? (x : Binary) (places : Int) : Option Binary :=
  if places.natAbs ≤ 308 then do
    let ten ← nearest? (power 10 places.natAbs) 1
    if 0 ≤ places then x.times? ten else x.dividedBy? ten
  else if x.significand = 0 then some x
  else if 0 ≤ places then none
  else do
    let ten ← nearest? (power 10 308) 1
    (← x.dividedBy? ten).shift? (places + 308)
termination_by places.natAbs
decreasing_by omega

end Binary
end Decimal
end Noughts
