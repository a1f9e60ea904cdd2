import Noughts.Mark
import Noughts.Square

/-!
The board.

A board is a function from row and column to what the square holds.  `Board.cell`
reads it at any square and finds nothing off the board, which makes it the view
that every operation is described by: `cell_put` says what a write does to it,
and two boards with the same view are equal (`Board.ext_cell`).

Squares are written once.  `Board.set` refuses a square that is off the board or
holds a mark already, and checks nothing else, so writing "nothing" on an empty
square is allowed and changes nothing.
-/

namespace Noughts

structure Board where
  grid : Fin 3 → Fin 3 → Cell

namespace Board

instance : DecidableEq Board := fun a b =>
  decidable_of_iff (∀ r c, a.grid r c = b.grid r c)
    ⟨fun h => by cases a; cases b; congr; funext r c; exact h r c, fun h _ _ => h ▸ rfl⟩

def empty : Board :=
  ⟨fun _ _ => none⟩

/-- What a square holds.  There is nothing off the board. -/
def cell (b : Board) (s : Square) : Cell :=
  if h : s.OnBoard then b.grid ⟨s.row, h.row_lt⟩ ⟨s.col, h.col_lt⟩ else none

/-- Overwrites one square.  A square off the board is left alone. -/
def put (b : Board) (s : Square) (v : Cell) : Board :=
  ⟨fun r c => if r.val = s.row ∧ c.val = s.col then v else b.grid r c⟩

inductive AccessError where
  | offBoard (s : Square)
  | occupied (s : Square)
deriving DecidableEq, Repr

def AccessError.message : AccessError → String
  | offBoard s => "Coordinate " ++ String.ofList s.coordinates ++ " is off the board"
  | occupied s => "Cell " ++ String.ofList s.coordinates ++ " is already occupied"

def get (b : Board) (s : Square) : Except AccessError Cell :=
  if s.OnBoard then .ok (b.cell s) else .error (.offBoard s)

/-- Writes an empty square of the board. -/
def set (b : Board) (s : Square) (v : Cell) : Except AccessError Board :=
  if ¬ s.OnBoard then .error (.offBoard s)
  else if (b.cell s).isSome then .error (.occupied s)
  else .ok (b.put s v)

/-- The cells, row by row from the top. -/
def rows (b : Board) : List (List Cell) :=
  List.ofFn fun r => List.ofFn fun c => b.grid r c

def isFull (b : Board) : Bool :=
  b.rows.all fun row => row.all Option.isSome

def claimed (b : Board) : Nat :=
  b.rows.flatten.countP Option.isSome

/-- The nine squares in reading order, each with what it holds. -/
def cells (b : Board) : List (Square × Cell) :=
  Square.all.map fun s => (s, b.cell s)

/-- The squares without a mark, in reading order. -/
def openSquares (b : Board) : List Square :=
  Square.all.filter fun s => (b.cell s).isNone

@[simp] theorem cell_empty (s : Square) : empty.cell s = none := by
  simp [cell, empty]

theorem cell_of_not_onBoard (b : Board) {s : Square} (h : ¬ s.OnBoard) : b.cell s = none := by
  simp [cell, h]

theorem cell_ofFin (b : Board) (r c : Fin 3) : b.cell ⟨r, c⟩ = b.grid r c := by
  simp [cell, Square.OnBoard]

theorem ext_cell {a b : Board} (h : ∀ s, s.OnBoard → a.cell s = b.cell s) : a = b := by
  obtain ⟨f⟩ := a
  obtain ⟨g⟩ := b
  congr
  funext r c
  have := h ⟨r, c⟩ ⟨r.isLt, c.isLt⟩
  rwa [cell_ofFin, cell_ofFin] at this

theorem cell_put (b : Board) (s t : Square) (v : Cell) :
    (b.put s v).cell t = if t = s ∧ s.OnBoard then v else b.cell t := by
  by_cases ht : t.OnBoard
  · by_cases hts : t = s
    · subst hts
      simp [cell, put, ht]
    · have : ¬ (t.row = s.row ∧ t.col = s.col) := fun h => hts (by
        cases s; cases t; simp_all)
      simp [cell, put, ht, hts, this]
  · have : ¬ (t = s ∧ s.OnBoard) := fun h => ht (h.1 ▸ h.2)
    simp [cell, ht, this]

theorem set_eq_ok_iff {b c : Board} {s : Square} {v : Cell} :
    b.set s v = .ok c ↔ (s.OnBoard ∧ b.cell s = none) ∧ c = b.put s v := by
  by_cases hs : s.OnBoard
  · cases hc : b.cell s <;> simp [set, hs, hc, eq_comm]
  · simp [set, hs]

theorem set_eq_error_iff {b : Board} {s : Square} {v : Cell} {e : AccessError} :
    b.set s v = .error e ↔
      e = .offBoard s ∧ ¬ s.OnBoard ∨ e = .occupied s ∧ s.OnBoard ∧ b.cell s ≠ none := by
  by_cases hs : s.OnBoard
  · cases hc : b.cell s <;> simp [set, hs, hc, eq_comm]
  · simp [set, hs, eq_comm]

theorem mem_openSquares {b : Board} {s : Square} :
    s ∈ b.openSquares ↔ s.OnBoard ∧ b.cell s = none := by
  simp [openSquares, Square.mem_all]

end Board
end Noughts
