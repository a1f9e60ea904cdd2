import Noughts.Decimal.Written

/-!
JSON values and their compact text.

An object is the list of its fields in the order in which they are written; a
reader looks fields up by name.  Whole numbers are kept apart from floats,
because a reader that wants a whole number takes no other.
-/

namespace Noughts

inductive Json where
  | null
  | bool (b : Bool)
  | integer (n : Int)
  | float (negative : Bool) (magnitude : Decimal.Binary)
  | string (s : String)
  | array (items : List Json)
  | object (fields : List (String × Json))
deriving Inhabited

namespace Json

def escape (c : Char) : List Char :=
  if c = '"' then ['\\', '"']
  else if c = '\\' then ['\\', '\\']
  else if c = '\n' then ['\\', 'n']
  else if c = '\r' then ['\\', 'r']
  else if c = '\t' then ['\\', 't']
  else if c = '\x08' then ['\\', 'b']
  else if c = '\x0c' then ['\\', 'f']
  else if c.toNat < 0x10 then "\\u000".toList ++ Nat.toDigits 16 c.toNat
  else if c.toNat < 0x20 then "\\u00".toList ++ Nat.toDigits 16 c.toNat
  else [c]

def quote (s : String) : List Char :=
  '"' :: s.toList.flatMap escape ++ ['"']

/-- Floats name their power of ten below a hundred-thousandth, and from ten to the
sixteenth on. -/
def numbers : Decimal.Style :=
  { least := -5, greatest := 15 }

mutual

/-- The text of a value, without blanks. -/
def chars : Json → List Char
  | null => "null".toList
  | bool true => "true".toList
  | bool false => "false".toList
  | integer n => Decimal.integer n
  | float negative x => numbers.writeFloat negative x
  | string s => quote s
  | array items => '[' :: [','].intercalate (charsList items) ++ [']']
  | object fields => '\x7b' :: [','].intercalate (charsFields fields) ++ ['\x7d']

def charsList : List Json → List (List Char)
  | [] => []
  | j :: rest => chars j :: charsList rest

def charsFields : List (String × Json) → List (List Char)
  | [] => []
  | (name, j) :: rest => (quote name ++ ':' :: chars j) :: charsFields rest

end

def text (j : Json) : String :=
  String.ofList j.chars

end Json
end Noughts
