import Noughts.Fault
import Noughts.Text.Blank
import Noughts.Text.Quoted

/-!
Names of squares, as players write them.

A square of the board is named by a column letter and a row digit, `a1` to `c3`.
`Square.ofToken` reads such a name: blanks around it and the case of the letter
do not matter, and nothing else is forgiven.  `Square.text` writes it, and writes
the pair of coordinates for a square off the board, which no token names.

Columns and rows are found by counting to the one after them, in words of 64
bits.  Looking for the last word is a fault, and a square far off the board has
no text if one of its coordinates has to be looked for and is that word.
-/

namespace Noughts
namespace Square

def columnLetter : Fin 3 → Char
  | 0 => 'a'
  | 1 => 'b'
  | 2 => 'c'

def rowDigit : Fin 3 → Char
  | 0 => '1'
  | 1 => '2'
  | 2 => '3'

/-- The column that a text names: one letter, in either case. -/
def column? : List Char → Option (Fin 3)
  | ['a'] | ['A'] => some 0
  | ['b'] | ['B'] => some 1
  | ['c'] | ['C'] => some 2
  | _ => none

/-- The row that a text names: one digit. -/
def row? : List Char → Option (Fin 3)
  | ['1'] => some 0
  | ['2'] => some 1
  | ['3'] => some 2
  | _ => none

/-- The column or the row with a given number, if the board has one. -/
def seek (n : Nat) : Except Fault (Option (Fin 3)) :=
  if n + 1 < UInt64.size then .ok (if h : n < 3 then some ⟨n, h⟩ else none)
  else .error .overflow

def ofFin (r c : Fin 3) : Square :=
  ⟨r, c⟩

/-- The name of a square, if it is on the board.  Its row is looked for only if
the board has its column. -/
def name (s : Square) : Except Fault (Option (List Char)) := do
  match ← seek s.col with
  | none => return none
  | some c =>
    match ← seek s.row with
    | none => return none
    | some r => return some [columnLetter c, rowDigit r]

/-- What stands for a square in every message: its name, or else its
coordinates. -/
def chars (s : Square) : Except Fault (List Char) := do
  return (← s.name).getD s.coordinates

def text (s : Square) : Except Fault String := do
  return String.ofList (← s.chars)

/-- A text that names no square, without the blanks that stood around it. -/
structure Unreadable where
  token : String
deriving DecidableEq, Repr

def Unreadable.message (e : Unreadable) : String :=
  Text.quoted e.token ++ " is not a board location (expected a1..c3)"

/-- Reads a trimmed name.  The first character is the column and all that
follows is the row. -/
def ofName? : List Char → Option Square
  | [] => none
  | c :: rest =>
    match column? [c], row? rest with
    | some col, some row => some (ofFin row col)
    | _, _ => none

def ofToken (t : String) : Except Unreadable Square :=
  let name := Text.trim t.toList
  match ofName? name with
  | some s => .ok s
  | none => .error ⟨String.ofList name⟩

theorem onBoard_ofFin (r c : Fin 3) : (ofFin r c).OnBoard :=
  ⟨r.isLt, c.isLt⟩

@[simp] theorem column?_columnLetter (c : Fin 3) : column? [columnLetter c] = some c := by
  revert c; decide

@[simp] theorem row?_rowDigit (r : Fin 3) : row? [rowDigit r] = some r := by
  revert r; decide

theorem seek_of_lt {n : Nat} (h : n < 3) : seek n = .ok (some ⟨n, h⟩) := by
  have hn : n + 1 < UInt64.size := Nat.lt_of_le_of_lt (by omega) (by decide : 4 < UInt64.size)
  simp [seek, h, hn]

theorem val_of_seek {n : Nat} {i : Fin 3} (h : seek n = .ok (some i)) : i.val = n := by
  unfold seek at h
  split at h
  · simp only [Except.ok.injEq] at h
    split at h
    · cases h; rfl
    · cases h
  · cases h

theorem name_of_onBoard {s : Square} (h : s.OnBoard) :
    s.name = .ok (some [columnLetter ⟨s.col, h.col_lt⟩, rowDigit ⟨s.row, h.row_lt⟩]) := by
  simp only [name, seek_of_lt h.col_lt, seek_of_lt h.row_lt]
  rfl

theorem chars_of_onBoard {s : Square} (h : s.OnBoard) :
    s.chars = .ok [columnLetter ⟨s.col, h.col_lt⟩, rowDigit ⟨s.row, h.row_lt⟩] := by
  simp only [chars, name_of_onBoard h]
  rfl

theorem text_of_onBoard {s : Square} (h : s.OnBoard) :
    s.text = .ok (String.ofList [columnLetter ⟨s.col, h.col_lt⟩, rowDigit ⟨s.row, h.row_lt⟩]) := by
  simp only [text, chars_of_onBoard h]
  rfl

theorem ofName?_name {s : Square} {n : List Char} (h : s.name = .ok (some n)) :
    ofName? n = some s := by
  simp only [name, bind, Except.bind, pure, Except.pure] at h
  split at h
  · cases h
  · rename_i hcol
    split at h
    · cases h
    · split at h
      · cases h
      · rename_i hrow
        split at h
        · cases h
        · simp only [Except.ok.injEq, Option.some.injEq] at h
          subst h
          simp [ofName?, ofFin, val_of_seek hcol, val_of_seek hrow]

theorem onBoard_of_ofName? {n : List Char} {s : Square} (h : ofName? n = some s) : s.OnBoard := by
  cases n with
  | nil => simp [ofName?] at h
  | cons c rest =>
    simp only [ofName?] at h
    split at h
    · simp only [Option.some.injEq] at h
      exact h ▸ onBoard_ofFin _ _
    · cases h

theorem ofToken_eq_ok_iff {t : String} {s : Square} :
    ofToken t = .ok s ↔ ofName? (Text.trim t.toList) = some s := by
  simp only [ofToken]
  split <;> simp_all

theorem onBoard_of_ofToken {t : String} {s : Square} (h : ofToken t = .ok s) : s.OnBoard :=
  onBoard_of_ofName? (ofToken_eq_ok_iff.1 h)

end Square

/-- The words about a fault.  A square without a text is given by its
coordinates. -/
def Fault.message : Fault → String
  | overflow => "attempt to add with overflow"
  | tooWide => "Formatting argument out of range"
  | inconsistent s =>
    "Game invariants violated after " ++ s.text.toOption.getD (String.ofList s.coordinates)

end Noughts
