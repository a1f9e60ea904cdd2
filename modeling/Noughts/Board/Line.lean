import Noughts.Board
import Noughts.Outcome

/-!
Lines of three and the verdict on a board.

`Line.table` lists the eight lines and `Board.heldLine?` scans it.
`Board.HasLine` says the same in terms of rows, columns and diagonals, without
the table; `isSome_heldLine?_iff` ties the two together.

`Board.verdict` judges a board after a move and looks at as little of it as it
can: at the mover only, since the opponent's last move did not end the game, and
not at all before the mover can have three marks.
-/

namespace Noughts

/-- Three squares that win when one mark holds them all. -/
structure Line where
  first : Square
  second : Square
  third : Square
deriving DecidableEq, Repr

namespace Line

def squares (l : Line) : List Square :=
  [l.first, l.second, l.third]

/-- The rows from the top, the columns from the left, and the diagonals, the one
from the top left corner first. -/
def table : List Line :=
  [⟨⟨0, 0⟩, ⟨0, 1⟩, ⟨0, 2⟩⟩, ⟨⟨1, 0⟩, ⟨1, 1⟩, ⟨1, 2⟩⟩, ⟨⟨2, 0⟩, ⟨2, 1⟩, ⟨2, 2⟩⟩,
   ⟨⟨0, 0⟩, ⟨1, 0⟩, ⟨2, 0⟩⟩, ⟨⟨0, 1⟩, ⟨1, 1⟩, ⟨2, 1⟩⟩, ⟨⟨0, 2⟩, ⟨1, 2⟩, ⟨2, 2⟩⟩,
   ⟨⟨0, 0⟩, ⟨1, 1⟩, ⟨2, 2⟩⟩, ⟨⟨0, 2⟩, ⟨1, 1⟩, ⟨2, 0⟩⟩]

end Line

/-- The first turn whose move is checked for a line.  The third mark of a player
falls on turn five at the earliest, so nothing is missed before. -/
def scanFrom : Nat := 4

def lastTurn : Nat := 9

namespace Board

def holds (b : Board) (m : Mark) (l : Line) : Bool :=
  l.squares.all fun s => b.cell s = some m

def heldLine? (b : Board) (m : Mark) : Option Line :=
  Line.table.find? (b.holds m)

/-- A mark holds a whole row, a whole column or a whole diagonal. -/
def HasLine (b : Board) (m : Mark) : Prop :=
  (∃ r, ∀ c, b.grid r c = some m) ∨ (∃ c, ∀ r, b.grid r c = some m) ∨
  (∀ i : Fin 3, b.grid i i = some m) ∨ (∀ i : Fin 3, b.grid i i.rev = some m)

instance (b : Board) (m : Mark) : Decidable (b.HasLine m) :=
  inferInstanceAs (Decidable (_ ∨ _ ∨ _ ∨ _))

/-- How the game stands after `mover` has moved on a turn. -/
def verdict (b : Board) (mover : Mark) (turn : Nat) : Outcome :=
  if turn < scanFrom then .inProgress
  else if (b.heldLine? mover).isSome then .win mover
  else if turn = lastTurn then .draw
  else .inProgress

theorem isSome_heldLine?_iff {b : Board} {m : Mark} :
    (b.heldLine? m).isSome = true ↔ b.HasLine m := by
  simp only [heldLine?, List.find?_isSome, Line.table, holds, Line.squares, List.mem_cons,
    List.not_mem_nil, or_false, exists_eq_or_imp, exists_eq_left, List.all_cons, List.all_nil,
    Bool.and_true, Bool.and_eq_true, HasLine, Fin.forall_fin_succ,
    Fin.exists_fin_succ, cell, Square.OnBoard]
  simp [Fin.rev, or_assoc]

end Board
end Noughts
