import Noughts.Game.Audit

/-!
Moves.

`Game.play` makes one move.  A move is refused if the game is over or the square
can not be claimed, and then nothing changes.  The next game is audited before it
is handed out: from a game that breaks a law there is no next game, only a fault.
`Game.ofMoves` plays a list of moves from the start.

A move that comes in is recorded first, as a span of the log with the text of its
square for a field.  The text is only asked for where spans are recorded, and the
model is of a run that records them.  In such a run a square without a text is a
fault in every game, a finished one included.  In a run without spans `Game.play`
would have no use for the text, and would refuse such a square as it refuses any
other off the board.
-/

namespace Noughts
namespace Game

/-- The game after `s` has been claimed, which leaves `board`.  The mark to move
stays the same when the move ends the game. -/
def after (g : Game) (s : Square) (board : Board) : Game :=
  let outcome := board.verdict g.player g.turn.toNat
  { board
    player := if outcome.isTerminal then g.player else g.player.other
    turn := g.turn + 1
    history := g.history ++ [s]
    outcome }

def play (g : Game) (s : Square) : Except PlayError Game :=
  -- The span of the move has this text for a field.
  match s.text with
  | .error f => .error (.fault f)
  | .ok _ =>
    if g.isOver then .error (.refused .gameOver)
    else
      match g.board.set s (some g.player) with
      | .error (.offBoard _) => .error (.refused (.flawed (.offBoard s)))
      | .error (.occupied _) => .error (.refused (.flawed (.occupied s)))
      | .ok board =>
        if g.turn.toNat + 1 = UInt64.size then .error (.fault .overflow)
        else if (g.after s board).Consistent then .ok (g.after s board)
        else .error (.fault (.inconsistent s))

def playToken (g : Game) (token : String) : Except PlayError Game :=
  match Square.ofToken token with
  | .error e => .error (.refused (.flawed (.unreadable e)))
  | .ok s => g.play s

/-- Plays moves in order and stops at the first that has no next game. -/
def playAll (g : Game) : List Square → Except PlayError Game
  | [] => .ok g
  | s :: rest =>
    match g.play s with
    | .error e => .error e
    | .ok next => next.playAll rest

def ofMoves (moves : List Square) : Except PlayError Game :=
  new.playAll moves

theorem playAll_append (g : Game) (before rest : List Square) :
    g.playAll (before ++ rest) =
      match g.playAll before with
      | .error e => .error e
      | .ok next => next.playAll rest := by
  induction before generalizing g with
  | nil => rfl
  | cons s before ih =>
    simp only [List.cons_append, playAll]
    cases g.play s with
    | error e => rfl
    | ok next => exact ih next

theorem play_of_text_error {s : Square} {f : Fault} (h : s.text = .error f) (g : Game) :
    g.play s = .error (.fault f) := by
  simp [play, h]

theorem play_of_isOver {g : Game} (h : g.isOver = true) {s : Square} {t : String}
    (ht : s.text = .ok t) : g.play s = .error (.refused .gameOver) := by
  simp [play, h, ht]

theorem play_of_not_onBoard {g : Game} (h : g.isOver = false) {s : Square} {t : String}
    (ht : s.text = .ok t) (hs : ¬ s.OnBoard) :
    g.play s = .error (.refused (.flawed (.offBoard s))) := by
  have hset : g.board.set s (some g.player) = .error (.offBoard s) :=
    Board.set_eq_error_iff.2 (.inl ⟨rfl, hs⟩)
  simp [play, h, ht, hset]

theorem play_of_occupied {g : Game} (h : g.isOver = false) {s : Square} {m : Mark}
    (hc : g.board.cell s = some m) : g.play s = .error (.refused (.flawed (.occupied s))) := by
  have hs : s.OnBoard := Decidable.byContradiction fun hs => by
    rw [Board.cell_of_not_onBoard _ hs] at hc
    cases hc
  have hset : g.board.set s (some g.player) = .error (.occupied s) :=
    Board.set_eq_error_iff.2 (.inr ⟨rfl, hs, by simp [hc]⟩)
  simp [play, h, Square.text_of_onBoard hs, hset]

/-- On an open square only the turn number and the audit can stop a move. -/
theorem play_of_mem_openSquares {g : Game} (h : g.isOver = false) {s : Square}
    (hs : s ∈ g.openSquares) :
    g.play s =
      if g.turn.toNat + 1 = UInt64.size then .error (.fault .overflow)
      else if (g.after s (g.board.put s (some g.player))).Consistent then
        .ok (g.after s (g.board.put s (some g.player)))
      else .error (.fault (.inconsistent s)) := by
  have hopen := Board.mem_openSquares.1 hs
  have hset : g.board.set s (some g.player) = .ok (g.board.put s (some g.player)) :=
    Board.set_eq_ok_iff.2 ⟨hopen, rfl⟩
  simp [play, h, Square.text_of_onBoard hopen.1, hset]

/-- A move succeeds exactly when the game goes on, the square is open, the turn
number has a successor and the next game keeps every law. -/
theorem play_eq_ok_iff {g next : Game} {s : Square} :
    g.play s = .ok next ↔
      (g.isOver = false ∧ s ∈ g.openSquares) ∧ g.turn.toNat + 1 ≠ UInt64.size ∧
        next = g.after s (g.board.put s (some g.player)) ∧ next.Consistent := by
  cases ht : s.text with
  | error f =>
    rw [play_of_text_error ht]
    refine ⟨nofun, fun h => ?_⟩
    rw [Square.text_of_onBoard (Board.mem_openSquares.1 h.1.2).1] at ht
    cases ht
  | ok t =>
    cases hover : g.isOver with
    | true => simp [play_of_isOver hover ht]
    | false =>
      by_cases hs : s ∈ g.openSquares
      · rw [play_of_mem_openSquares hover hs]
        by_cases hturn : g.turn.toNat + 1 = UInt64.size
        · simp [hturn]
        · by_cases hk : (g.after s (g.board.put s (some g.player))).Consistent
          · rw [if_neg hturn, if_pos hk]
            exact ⟨fun h => Except.ok.inj h ▸ ⟨⟨rfl, hs⟩, hturn, rfl, hk⟩, fun h => h.2.2.1 ▸ rfl⟩
          · rw [if_neg hturn, if_neg hk]
            exact ⟨nofun, fun h => absurd (h.2.2.1 ▸ h.2.2.2) hk⟩
      · refine ⟨fun h => ?_, fun h => absurd h.1.2 hs⟩
        by_cases hb : s.OnBoard
        · cases hc : g.board.cell s with
          | none => exact absurd (Board.mem_openSquares.2 ⟨hb, hc⟩) hs
          | some m => rw [play_of_occupied hover hc] at h; cases h
        · rw [play_of_not_onBoard hover ht hb] at h; cases h

end Game
end Noughts
