/-!
Squares of the three by three board.

Coordinates are unbounded.  A player can ask for a square that is not there, and
the answer has to name the square that was asked for, so being on the board is a
predicate (`Square.OnBoard`) and no part of the type.
-/

namespace Noughts

/-- A place given by row and column, both counted from zero. -/
structure Square where
  row : Nat
  col : Nat
deriving DecidableEq, Repr

namespace Square

def OnBoard (s : Square) : Prop :=
  s.row < 3 ∧ s.col < 3

instance (s : Square) : Decidable s.OnBoard :=
  inferInstanceAs (Decidable (_ ∧ _))

theorem OnBoard.row_lt {s : Square} (h : s.OnBoard) : s.row < 3 := h.1

theorem OnBoard.col_lt {s : Square} (h : s.OnBoard) : s.col < 3 := h.2

def all : List Square :=
  (List.range 3).flatMap fun r => (List.range 3).map fun c => ⟨r, c⟩

theorem mem_all {s : Square} : s ∈ all ↔ s.OnBoard := by
  obtain ⟨r, c⟩ := s
  simp [all, OnBoard]

theorem nodup_all : all.Nodup := by decide

theorem length_all : all.length = 9 := rfl

/-- Reading order: by row, and by column within a row. -/
def Before (s t : Square) : Prop :=
  s.row < t.row ∨ (s.row = t.row ∧ s.col < t.col)

instance (s t : Square) : Decidable (Before s t) :=
  inferInstanceAs (Decidable (_ ∨ _))

theorem pairwise_before_all : all.Pairwise Before := by decide

def coordinates (s : Square) : List Char :=
  '(' :: Nat.toDigits 10 s.row ++ ',' :: ' ' :: Nat.toDigits 10 s.col ++ [')']

end Square
end Noughts
