import Noughts.Json.Numeral

/-!
Reading JSON texts.

Every reader takes something off the front of a list of characters and returns
what is left.  Blanks may stand around every value, and of several fields of one
name the last counts.  A text that holds anything but one value has no reading
(`Json.ofText?`).
-/

namespace Noughts
namespace Json

def isBlank (c : Char) : Bool :=
  c = ' ' || c = '\n' || c = '\t' || c = '\x0d'

def skipBlanks (s : List Char) : List Char :=
  s.dropWhile isBlank

/-- Takes a fixed text off the front. -/
def afterWord? : List Char → List Char → Option (List Char)
  | [], s => some s
  | c :: word, d :: s => if c = d then afterWord? word s else none
  | _ :: _, [] => none

def hexDigit? (c : Char) : Option Nat :=
  if '0' ≤ c ∧ c ≤ '9' then some (c.toNat - '0'.toNat)
  else if 'a' ≤ c ∧ c ≤ 'f' then some (c.toNat - 'a'.toNat + 10)
  else if 'A' ≤ c ∧ c ≤ 'F' then some (c.toNat - 'A'.toNat + 10)
  else none

def hexUnit? (a b c d : Char) : Option Nat := do
  return (((← hexDigit? a) * 16 + (← hexDigit? b)) * 16 + (← hexDigit? c)) * 16 + (← hexDigit? d)

/-- What a backslash makes of the character after it. -/
def unescape? (c : Char) : Option Char :=
  if c = '"' || c = '\\' || c = '/' then some c
  else if c = 'n' then some '\n'
  else if c = 't' then some '\t'
  else if c = 'r' then some '\x0d'
  else if c = 'b' then some '\x08'
  else if c = 'f' then some '\x0c'
  else none

/-- The code units of a string up to its closing quote, the ones already read in
reverse.  A character that stands for itself is one unit, whatever its size. -/
def units? (before : List Nat) : List Char → Option (List Nat × List Char)
  | [] => none
  | '"' :: s => some (before.reverse, s)
  | '\\' :: 'u' :: a :: b :: c :: d :: s =>
    match hexUnit? a b c d with
    | some n => units? (n :: before) s
    | none => none
  | '\\' :: c :: s =>
    match unescape? c with
    | some d => units? (d.toNat :: before) s
    | none => none
  | c :: s => if c < ' ' then none else units? (c.toNat :: before) s

/-- The characters of code units, the ones already read in reverse.  The halves of
a pair stand next to each other, and half a pair is no character. -/
def pairUp? (before : List Char) : List Nat → Option (List Char)
  | [] => some before.reverse
  | n :: rest =>
    if n < 0xd800 ∨ 0xe000 ≤ n then pairUp? (Char.ofNat n :: before) rest
    else
      match rest with
      | low :: rest =>
        if n < 0xdc00 ∧ 0xdc00 ≤ low ∧ low < 0xe000 then
          pairUp? (Char.ofNat (0x10000 + (n - 0xd800) * 0x400 + (low - 0xdc00)) :: before) rest
        else none
      | [] => none

/-- Splits off a string whose opening quote has been taken. -/
def string? (s : List Char) : Option (String × List Char) := do
  let (units, s) ← units? [] s
  return (String.ofList (← pairUp? [] units), s)

/-- Adds a field in front of others, unless it is repeated there. -/
def withField (name : String) (j : Json) (fields : List (String × Json)) : List (String × Json) :=
  if fields.any fun field => field.1 = name then fields else (name, j) :: fields

section

variable (read : List Char → Option (Json × List Char))

/-- Splits off at most so many elements of an array, up to its closing bracket. -/
def elements? : Nat → List Char → Option (List Json × List Char)
  | 0, _ => none
  | most + 1, s => do
    let (j, s) ← read s
    match skipBlanks s with
    | ',' :: s =>
      let (more, s) ← elements? most s
      return (j :: more, s)
    | ']' :: s => return ([j], s)
    | _ => none

def field? (s : List Char) : Option ((String × Json) × List Char) := do
  match skipBlanks s with
  | '"' :: s =>
    let (name, s) ← string? s
    match skipBlanks s with
    | ':' :: s =>
      let (j, s) ← read s
      return ((name, j), s)
    | _ => none
  | _ => none

def fields? : Nat → List Char → Option (List (String × Json) × List Char)
  | 0, _ => none
  | most + 1, s => do
    let ((name, j), s) ← field? read s
    match skipBlanks s with
    | ',' :: s =>
      let (more, s) ← fields? most s
      return (withField name j more, s)
    | '\x7d' :: s => return ([(name, j)], s)
    | _ => none

end

/-- Splits off the value at the front, nested less than so many levels deep, with
less than so many parts on each. -/
def value? : Nat → List Char → Option (Json × List Char)
  | 0, _ => none
  | bound + 1, s =>
    match skipBlanks s with
    | '"' :: s => (string? s).map fun (t, s) => (.string t, s)
    | '[' :: s =>
      match skipBlanks s with
      | ']' :: s => some (.array [], s)
      | s => (elements? (value? bound) bound s).map fun (items, s) => (.array items, s)
    | '\x7b' :: s =>
      match skipBlanks s with
      | '\x7d' :: s => some (.object [], s)
      | s => (fields? (value? bound) bound s).map fun (fields, s) => (.object fields, s)
    | 'n' :: s => (afterWord? "ull".toList s).map fun s => (.null, s)
    | 't' :: s => (afterWord? "rue".toList s).map fun s => (.bool true, s)
    | 'f' :: s => (afterWord? "alse".toList s).map fun s => (.bool false, s)
    | s => do
      let (n, s) ← Numeral.read? s
      return (← n.value?, s)

/-- The value that a text holds.  No text has more levels or parts than
characters. -/
def ofText? (text : String) : Option Json :=
  match value? (text.length + 1) text.toList with
  | some (j, s) => if (skipBlanks s).isEmpty then some j else none
  | none => none

end Json
end Noughts
