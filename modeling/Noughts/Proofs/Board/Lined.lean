import Noughts.Board.Line
import Noughts.Square.Token

/-!
Rows, columns and diagonals of a set of squares.

`Square.Lined` says of a property of squares that a whole line has it.  A mark
has a line on a board exactly if the squares it holds are lined
(`Board.hasLine_iff_lined`), so what is proved here of lined properties holds of
marks on a board and of moves in a list alike.  `Board.verdict_eq_win_iff` and
`Board.verdict_eq_draw_iff` say when a move is judged to end the game.
-/

namespace Noughts
namespace Square

/-- A whole row, a whole column or a whole diagonal has the property. -/
def Lined (p : Square → Prop) : Prop :=
  (∃ r, ∀ c, p (ofFin r c)) ∨ (∃ c, ∀ r, p (ofFin r c)) ∨
  (∀ i, p (ofFin i i)) ∨ (∀ i : Fin 3, p (ofFin i i.rev))

instance (p : Square → Prop) [DecidablePred p] : Decidable (Lined p) :=
  inferInstanceAs (Decidable (_ ∨ _ ∨ _ ∨ _))

theorem Lined.mono {p q : Square → Prop} (h : Lined p) (hpq : ∀ s, p s → q s) : Lined q := by
  rcases h with ⟨r, h⟩ | ⟨c, h⟩ | h | h
  · exact .inl ⟨r, fun c => hpq _ (h c)⟩
  · exact .inr (.inl ⟨c, fun r => hpq _ (h r)⟩)
  · exact .inr (.inr (.inl fun i => hpq _ (h i)))
  · exact .inr (.inr (.inr fun i => hpq _ (h i)))

theorem Lined.three {p : Square → Prop} (h : Lined p) :
    ∃ a b c, (a ≠ b ∧ a ≠ c ∧ b ≠ c) ∧ p a ∧ p b ∧ p c := by
  rcases h with ⟨r, h⟩ | ⟨c, h⟩ | h | h
  · exact ⟨_, _, _, by simp [ofFin], h 0, h 1, h 2⟩
  · exact ⟨_, _, _, by simp [ofFin], h 0, h 1, h 2⟩
  · exact ⟨_, _, _, by decide, h 0, h 1, h 2⟩
  · exact ⟨_, _, _, by decide, h 0, h 1, h 2⟩

end Square

namespace Board

theorem hasLine_iff_lined {b : Board} {m : Mark} :
    b.HasLine m ↔ Square.Lined fun s => b.cell s = some m := by
  have hcell (r c : Fin 3) : b.cell (Square.ofFin r c) = b.grid r c := b.cell_ofFin r c
  unfold HasLine Square.Lined
  simp only [hcell]

/-- A win is judged from the fourth turn on, and only for the mover. -/
theorem verdict_eq_win_iff {b : Board} {mover m : Mark} {turn : Nat} :
    b.verdict mover turn = .win m ↔ 4 ≤ turn ∧ b.HasLine mover ∧ mover = m := by
  simp only [verdict, scanFrom, isSome_heldLine?_iff]
  by_cases hturn : turn < 4
  · have hlt : ¬ 4 ≤ turn := by omega
    simp [hturn, hlt]
  · have hle : 4 ≤ turn := Nat.le_of_not_lt hturn
    by_cases hline : b.HasLine mover
    · simp [hturn, hline, hle]
    · simp only [hturn, hline, if_false, false_and, and_false, iff_false]
      split <;> simp

theorem verdict_eq_draw_iff {b : Board} {mover : Mark} {turn : Nat} :
    b.verdict mover turn = .draw ↔ turn = 9 ∧ ¬ b.HasLine mover := by
  simp only [verdict, scanFrom, lastTurn, isSome_heldLine?_iff]
  by_cases hturn : turn < 4
  · have hne : turn ≠ 9 := by omega
    simp [hturn, hne]
  · by_cases hline : b.HasLine mover
    · simp [hturn, hline]
    · by_cases hlast : turn = 9 <;> simp [hturn, hline, hlast]

end Board
end Noughts
