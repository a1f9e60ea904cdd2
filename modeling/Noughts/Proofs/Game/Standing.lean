import Noughts.Proofs.Game.Replay

/-!
The outcome by the full rules.

`Board.standing` judges a board as a reader of the rules would: it looks for a
line of either mark and then for an empty square.  The game looks at less.
`Game.Judged` says that nothing is lost by that, and every game made from a list
of moves is judged (`judged_of_ofMoves`).

`Game.successor` is one move by the full rules, with nothing checked about it.  It
is the game that an accepted move makes (`Played.play_of_mem_openSquares`).
-/

namespace Noughts

/-- How a board stands by the rules, whoever moved last and whenever. -/
def Board.standing (b : Board) : Outcome :=
  if b.HasLine .x then .win .x
  else if b.HasLine .o then .win .o
  else if b.isFull then .draw
  else .inProgress

namespace Game

/-- The game after a move, judged by the rules. -/
def successor (g : Game) (s : Square) : Game :=
  let board := g.board.put s (some g.player)
  { board
    player := if board.standing.isTerminal then g.player else g.player.other
    turn := g.turn + 1
    history := g.history ++ [s]
    outcome := board.standing }

/-- The outcome of the game is what the rules say of its board, and the mark that
has won has moved last. -/
structure Judged (g : Game) : Prop where
  won : ∀ m, g.outcome = .win m ↔ g.board.HasLine m
  drawn : g.outcome = .draw ↔ g.board.isFull = true ∧ ∀ m, ¬ g.board.HasLine m
  undecided : g.outcome = .inProgress ↔ g.board.isFull = false ∧ ∀ m, ¬ g.board.HasLine m
  oneWinner : ¬ (g.board.HasLine .x ∧ g.board.HasLine .o)
  lastMover : ∀ m, g.outcome = .win m → ∃ s, g.history.getLast? = some s ∧
    Mark.onTurn g.history.length = m ∧ g.board.cell s = some m

namespace Played

variable {moves : List Square} {g : Game}

theorem won_iff_hasLine (hp : g.Played moves) {m : Mark} :
    g.outcome = .win m ↔ g.board.HasLine m :=
  (hp.won m).trans hp.hasLine_iff.symm

theorem isFull_iff (hp : g.Played moves) : g.board.isFull = true ↔ moves.length = 9 := by
  obtain ⟨-, -, hcount, -⟩ := hp.consistent
  rw [Board.isFull_iff_claimed, hcount, hp.history]

theorem drawn_iff (hp : g.Played moves) :
    g.outcome = .draw ↔ g.board.isFull = true ∧ ∀ m, ¬ g.board.HasLine m := by
  rw [hp.drawn, hp.isFull_iff]
  simp only [hp.hasLine_iff]

theorem undecided_iff (hp : g.Played moves) :
    g.outcome = .inProgress ↔ g.board.isFull = false ∧ ∀ m, ¬ g.board.HasLine m := by
  constructor
  · intro h
    have hline : ∀ m, ¬ g.board.HasLine m := fun m hline => by
      rw [hp.won_iff_hasLine.2 hline] at h
      cases h
    refine ⟨Bool.eq_false_iff.2 fun hfull => ?_, hline⟩
    rw [hp.drawn_iff.2 ⟨hfull, hline⟩] at h
    cases h
  · rintro ⟨hfull, hline⟩
    cases ho : g.outcome with
    | inProgress => rfl
    | win m => exact absurd (hp.won_iff_hasLine.1 ho) (hline m)
    | draw =>
      rw [(hp.drawn_iff.1 ho).1] at hfull
      cases hfull

theorem oneWinner (hp : g.Played moves) {m n : Mark} (hm : g.board.HasLine m)
    (hn : g.board.HasLine n) : m = n :=
  (hp.mover m (hp.hasLine_iff.1 hm)).symm.trans (hp.mover n (hp.hasLine_iff.1 hn))

theorem outcome_eq_standing (hp : g.Played moves) : g.outcome = g.board.standing := by
  unfold Board.standing
  by_cases hx : g.board.HasLine .x
  · rw [if_pos hx, hp.won_iff_hasLine.2 hx]
  · by_cases ho : g.board.HasLine .o
    · rw [if_neg hx, if_pos ho, hp.won_iff_hasLine.2 ho]
    · have hline : ∀ m, ¬ g.board.HasLine m := fun m => by
        cases m with
        | x => exact hx
        | o => exact ho
      rw [if_neg hx, if_neg ho]
      by_cases hfull : g.board.isFull = true
      · rw [if_pos hfull, hp.drawn_iff.2 ⟨hfull, hline⟩]
      · rw [if_neg hfull, hp.undecided_iff.2 ⟨Bool.eq_false_iff.2 hfull, hline⟩]

theorem after_eq_successor (hp : g.Played moves) (h : g.isOver = false) {s : Square}
    (hs : s ∈ g.openSquares) : g.after s (g.board.put s (some g.player)) = g.successor s := by
  have hstanding := (hp.after h hs).outcome_eq_standing
  rw [outcome_after, board_after] at hstanding
  unfold Game.after successor
  simp only [hstanding]

theorem play_of_mem_openSquares (hp : g.Played moves) (h : g.isOver = false) {s : Square}
    (hs : s ∈ g.openSquares) :
    g.play s = .ok (g.successor s) ∧ (g.successor s).Played (moves ++ [s]) := by
  obtain ⟨hboard, hmem⟩ := hp.mem_openSquares_iff.1 hs
  have hobj : Moves.objection moves s = none :=
    Moves.objection_eq_none_iff.2 ⟨hp.isOver_eq_false_iff.1 h, hboard, hmem⟩
  have hplay := hp.play_eq s
  have hafter := hp.after h hs
  rw [hobj, hp.after_eq_successor h hs] at hplay
  rw [hp.after_eq_successor h hs] at hafter
  exact ⟨hplay, hafter⟩

theorem lastMover (hp : g.Played moves) {m : Mark} (h : g.outcome = .win m) :
    ∃ s, g.history.getLast? = some s ∧ Mark.onTurn g.history.length = m ∧
      g.board.cell s = some m := by
  have hline := (hp.won m).1 h
  have hlen := Moves.five_le_length hline
  have hmover := hp.mover m hline
  have hlast : moves[moves.length - 1]? = some moves[moves.length - 1] :=
    List.getElem?_eq_getElem (by omega)
  rw [hp.history, List.getLast?_eq_getElem?]
  refine ⟨_, hlast, hmover, (hp.marks _ m).2 (Moves.mem_claimedBy.2 ⟨_, hlast, ?_⟩)⟩
  rw [Nat.sub_add_cancel (by omega), hmover]

end Played

/-- Judging the mover alone, from the fourth turn on, and calling the ninth turn a
draw agrees with the rules on every game that moves lead to. -/
theorem judged_of_ofMoves {moves : List Square} {g : Game} (h : ofMoves moves = .ok g) :
    g.Judged :=
  have hp := played_of_ofMoves h
  { won := fun _ => hp.won_iff_hasLine
    drawn := hp.drawn_iff
    undecided := hp.undecided_iff
    oneWinner := fun ⟨hx, ho⟩ => nomatch hp.oneWinner hx ho
    lastMover := fun _ => hp.lastMover }

/-- The last move fills the board and completes a row and a column at once: a win
and no draw. -/
theorem judged_full_board_win :
    ∃ g, ofMoves [⟨0, 1⟩, ⟨1, 1⟩, ⟨0, 2⟩, ⟨1, 2⟩, ⟨1, 0⟩, ⟨2, 1⟩, ⟨2, 0⟩, ⟨2, 2⟩, ⟨0, 0⟩] = .ok g ∧
      g.Judged ∧ g.outcome = .win .x ∧ g.board.isFull = true := by
  have hlegal : Moves.Legal
      [⟨0, 1⟩, ⟨1, 1⟩, ⟨0, 2⟩, ⟨1, 2⟩, ⟨1, 0⟩, ⟨2, 1⟩, ⟨2, 0⟩, ⟨2, 2⟩, ⟨0, 0⟩] := by
    decide +kernel
  obtain ⟨g, hg, hp⟩ := ofMoves_of_legal hlegal
  exact ⟨g, hg, judged_of_ofMoves hg, (hp.won .x).2 (by decide), hp.isFull_iff.2 rfl⟩

end Game
end Noughts
