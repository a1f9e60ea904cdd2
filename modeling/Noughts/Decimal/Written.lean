import Noughts.Decimal.Shortest

/-!
Decimals as they are written.

A number of moderate size has its point where it belongs, with a digit on either
side.  A very large or very small one has its point after the first digit and
names the power of ten.  Where the one ends and the other begins is up to the
format (`Style`).
-/

namespace Noughts
namespace Decimal

/-- The least and the greatest power of ten of a leading digit that are written
without naming the power. -/
structure Style where
  least : Int
  greatest : Int
deriving DecidableEq, Repr

/-- A minus sign before the text of the absolute value of a negative number. -/
def signed (negative : Bool) (magnitude : List Char) : List Char :=
  if negative then '-' :: magnitude else magnitude

def integer (n : Int) : List Char :=
  signed (n < 0) (Nat.toDigits 10 n.natAbs)

/-- Digits with a point before the last `places` of them. -/
def withPoint (digits : List Char) (places : Nat) : List Char :=
  let padded := List.replicate (places + 1 - digits.length) '0' ++ digits
  padded.take (padded.length - places) ++ '.' :: padded.drop (padded.length - places)

/-- The number `d * 10 ^ k` with at least one digit on either side of the point. -/
def positional (d : Nat) (k : Int) : List Char :=
  if 0 ≤ k then Nat.toDigits 10 (d * power 10 k) ++ ['.', '0']
  else withPoint (Nat.toDigits 10 d) (-k).toNat

/-- Digits with a point after the first, unless it is alone, and the power of ten
of the first with its sign. -/
def scientific (digits : List Char) (exponent : Int) : List Char :=
  (if digits.length = 1 then digits else withPoint digits (digits.length - 1)) ++
    (if exponent < 0 then ['e'] else ['e', '+']) ++ integer exponent

/-- The number `d * 10 ^ k`. -/
def Style.write (style : Style) (d : Nat) (k : Int) : List Char :=
  let digits := Nat.toDigits 10 d
  let exponent := k + digits.length - 1
  if style.least ≤ exponent ∧ exponent ≤ style.greatest then positional d k
  else scientific digits exponent

/-- A float, by the shortest decimal that names it. -/
def Style.writeFloat (style : Style) (negative : Bool) (x : Binary) : List Char :=
  signed negative (style.write x.shortest.1 x.shortest.2)

end Decimal
end Noughts
