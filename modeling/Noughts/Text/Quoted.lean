import Noughts.Text.Hidden

/-!
Quoted text: a text between double quotes, on one line, from which the text can
be read back.

Every character stands for itself except the ones that would end the quotes,
break the line or be invisible.  Those are written with a backslash.
-/

namespace Noughts
namespace Text

/-- The written form of one character.  The six short forms come first: four of
them are hidden characters, which would otherwise be written by number. -/
def escape (c : Char) : List Char :=
  if c = '\t' then ['\\', 't']
  else if c = '\r' then ['\\', 'r']
  else if c = '\n' then ['\\', 'n']
  else if c = '\x00' then ['\\', '0']
  else if c = '\\' then ['\\', '\\']
  else if c = '"' then ['\\', '"']
  else if isHidden c then ['\\', 'u', '\x7b'] ++ Nat.toDigits 16 c.toNat ++ ['\x7d']
  else [c]

def quote (s : List Char) : List Char :=
  '"' :: s.flatMap escape ++ ['"']

def quoted (s : String) : String :=
  String.ofList (quote s.toList)

@[simp] theorem toList_quoted (s : String) : (quoted s).toList = quote s.toList := by
  simp [quoted]

end Text
end Noughts
