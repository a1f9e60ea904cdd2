import Noughts.Json

/-!
Numbers as they stand in a JSON text, and the values they are read as.

A number is read through a word of 64 bits: its digits are taken as long as the
word holds them, and of the later ones only the place counts.  A number without
fraction and exponent that the word holds is a whole number.  Every other one is
a float: the word, rounded, with its point moved.  Since both steps round, the
last digit may differ from the float nearest to what was written.
-/

namespace Noughts
namespace Json

/-- The parts of a written number: the digits before and after the point, and the
exponent if one is written. -/
structure Numeral where
  negative : Bool
  whole : List Char
  fraction : List Char
  exponent : Option Int
deriving DecidableEq, Repr

namespace Numeral

def digit (c : Char) : Nat :=
  c.toNat - '0'.toNat

def ofDigits (digits : List Char) : Nat :=
  digits.foldl (fun n c => n * 10 + digit c) 0

/-- Takes digits into a word as long as it holds them, and returns the digits that
are left. -/
def absorb (word : Nat) : List Char → Nat × List Char
  | [] => (word, [])
  | c :: rest =>
    let longer := word * 10 + digit c
    if longer < UInt64.size then absorb longer rest else (word, c :: rest)

/-- The number as a word and the power of ten that belongs to it. -/
def scaled (n : Numeral) : Nat × Int :=
  let (word, beyond) := absorb 0 n.whole
  let (word, ignored) := absorb word n.fraction
  (word, beyond.length - (n.fraction.length - ignored.length) + n.exponent.getD 0)

/-- The number as a whole one, if it is written as one and a word holds it. The
negative zero is no whole number, and a negative word has 63 bits. -/
def whole? (n : Numeral) : Option Int :=
  let (word, beyond) := absorb 0 n.whole
  if n.fraction ≠ [] ∨ n.exponent ≠ none ∨ beyond ≠ [] then none
  else if ¬ n.negative then some word
  else if 0 < word ∧ word ≤ 0x8000000000000000 then some (-word)
  else none

/-- The value of a number.  A number too large for a float has none. -/
def value? (n : Numeral) : Option Json :=
  match n.whole? with
  | some i => some (.integer i)
  | none => do
    let (word, power) := n.scaled
    let x ← Decimal.Binary.nearest? word 1
    return .float n.negative (← x.shift? power)

def digits (s : List Char) : List Char × List Char :=
  (s.takeWhile Char.isDigit, s.dropWhile Char.isDigit)

/-- The digits after a point, if there is a point.  A point needs a digit. -/
def fraction? : List Char → Option (List Char × List Char)
  | '.' :: s =>
    let (ds, rest) := digits s
    if ds = [] then none else some (ds, rest)
  | s => some ([], s)

/-- The digits of an exponent, of which there is at least one. -/
def exponentDigits? (s : List Char) : Option (Nat × List Char) :=
  let (ds, rest) := digits s
  if ds = [] then none else some (ofDigits ds, rest)

def exponent? : List Char → Option (Option Int × List Char)
  | 'e' :: s | 'E' :: s =>
    match s with
    | '-' :: s => (exponentDigits? s).map fun (n, rest) => (some (-n), rest)
    | '+' :: s => (exponentDigits? s).map fun (n, rest) => (some n, rest)
    | s => (exponentDigits? s).map fun (n, rest) => (some n, rest)
  | s => some (none, s)

/-- Splits off a number without its sign.  It has a digit before the point, and a
zero there stands alone. -/
def unsigned? (negative : Bool) (s : List Char) : Option (Numeral × List Char) := do
  let (whole, s) := digits s
  if whole = [] ∨ (1 < whole.length ∧ whole.head? = some '0') then none
  else
    let (fraction, s) ← fraction? s
    let (exponent, s) ← exponent? s
    return ({ negative, whole, fraction, exponent }, s)

def read? : List Char → Option (Numeral × List Char)
  | '-' :: s => unsigned? true s
  | s => unsigned? false s

end Numeral
end Json
end Noughts
