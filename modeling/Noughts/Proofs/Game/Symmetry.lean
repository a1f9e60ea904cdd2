import Mathlib.Data.List.Perm.Basic
import Noughts.Proofs.Game.Consistency

/-!
Symmetric positions are played alike.

`Symmetry` names the eight symmetries of the square, and `Symmetry.square` is what one
of them does to a square.  A square off the board stays where it is.  Boards, games and
answers are carried along square by square (`Symmetry.board`, `Symmetry.game`,
`Symmetry.result`).

Everything that a move looks at is the same after a symmetry: which squares are open,
how many are claimed, whether a mark holds a line and which laws hold.  The table of
lines is the one place where squares are written out, and `exists_line` is what it has
to fulfil.  So a move is answered alike (`Symmetry.play_game`), and so is a list of moves
(`Game.ofMoves_symmetric`).
-/

namespace Noughts

/-- The turns are clockwise.  The flips exchange the outer rows or the outer columns, and
the transpositions keep a diagonal. -/
inductive Symmetry where
  | identity
  | quarterTurn
  | halfTurn
  | threeQuarterTurn
  | flipRows
  | flipColumns
  | transpose
  | antitranspose
deriving DecidableEq, Repr

namespace Symmetry

/-- Where a square of the board goes. -/
def place : Symmetry → Square → Square
  | identity, s => s
  | quarterTurn, s => ⟨s.col, 2 - s.row⟩
  | halfTurn, s => ⟨2 - s.row, 2 - s.col⟩
  | threeQuarterTurn, s => ⟨2 - s.col, s.row⟩
  | flipRows, s => ⟨2 - s.row, s.col⟩
  | flipColumns, s => ⟨s.row, 2 - s.col⟩
  | transpose, s => ⟨s.col, s.row⟩
  | antitranspose, s => ⟨2 - s.col, 2 - s.row⟩

def square (σ : Symmetry) (s : Square) : Square :=
  if s.OnBoard then σ.place s else s

/-- The symmetry that undoes another. -/
def inverse : Symmetry → Symmetry
  | quarterTurn => threeQuarterTurn
  | threeQuarterTurn => quarterTurn
  | σ => σ

/-- What was on a square is where the square goes. -/
def board (σ : Symmetry) (b : Board) : Board :=
  ⟨fun r c => b.cell (σ.inverse.square (Square.ofFin r c))⟩

def game (σ : Symmetry) (g : Game) : Game :=
  { g with board := σ.board g.board, history := g.history.map σ.square }

def flaw (σ : Symmetry) : Flaw → Flaw
  | .unreadable e => .unreadable e
  | .offBoard s => .offBoard (σ.square s)
  | .occupied s => .occupied (σ.square s)

def refusal (σ : Symmetry) : Refusal → Refusal
  | .flawed f => .flawed (σ.flaw f)
  | .gameOver => .gameOver

def fault (σ : Symmetry) : Fault → Fault
  | .overflow => .overflow
  | .tooWide => .tooWide
  | .inconsistent s => .inconsistent (σ.square s)

def playError (σ : Symmetry) : PlayError → PlayError
  | .refused e => .refused (σ.refusal e)
  | .fault f => .fault (σ.fault f)

/-- The same answer, about the squares where the symmetry puts those that it was about. -/
def result (σ : Symmetry) : Except PlayError Game → Except PlayError Game
  | .ok g => .ok (σ.game g)
  | .error e => .error (σ.playError e)

variable (σ : Symmetry) {s t : Square}

/-! ## Squares -/

theorem square_of_onBoard (h : s.OnBoard) : σ.square s = σ.place s :=
  if_pos h

theorem square_of_not_onBoard (h : ¬ s.OnBoard) : σ.square s = s :=
  if_neg h

theorem onBoard_place (h : s.OnBoard) : (σ.place s).OnBoard := by
  have hrow := h.row_lt
  have hcol := h.col_lt
  cases σ <;> simp only [place, Square.OnBoard] <;> omega

theorem place_inverse_place (h : s.OnBoard) : σ.inverse.place (σ.place s) = s := by
  obtain ⟨r, c⟩ := s
  have hrow : r < 3 := h.row_lt
  have hcol : c < 3 := h.col_lt
  cases σ <;> simp [inverse, place] <;> omega

@[simp] theorem onBoard_square : (σ.square s).OnBoard ↔ s.OnBoard := by
  by_cases h : s.OnBoard
  · rw [square_of_onBoard σ h]
    exact iff_of_true (σ.onBoard_place h) h
  · rw [square_of_not_onBoard σ h]

@[simp] theorem inverse_inverse : σ.inverse.inverse = σ := by
  cases σ <;> rfl

@[simp] theorem square_inverse_square : σ.inverse.square (σ.square s) = s := by
  by_cases h : s.OnBoard
  · rw [square_of_onBoard σ h, square_of_onBoard _ (σ.onBoard_place h), σ.place_inverse_place h]
  · rw [square_of_not_onBoard σ h, square_of_not_onBoard _ h]

@[simp] theorem square_square_inverse : σ.square (σ.inverse.square s) = s := by
  have h := σ.inverse.square_inverse_square (s := s)
  rwa [inverse_inverse] at h

theorem square_injective : Function.Injective σ.square := fun s t h => by
  rw [← σ.square_inverse_square (s := s), h, square_inverse_square]

/-- No two of the eight are the same. -/
theorem eq_of_square_eq {σ τ : Symmetry} (h : ∀ s, σ.square s = τ.square s) : σ = τ := by
  have hcorner := h ⟨0, 0⟩
  have hedge := h ⟨0, 1⟩
  revert hcorner hedge
  cases σ <;> cases τ <;> decide

theorem spellable_square : (σ.square s).Spellable ↔ s.Spellable := by
  by_cases h : s.OnBoard
  · exact iff_of_true ((onBoard_square σ).2 h).spellable h.spellable
  · rw [square_of_not_onBoard σ h]

theorem perm_map_all : (Square.all.map σ.square).Perm Square.all := by
  cases σ <;> decide

/-! ## Boards -/

@[simp] theorem cell_board (b : Board) : (σ.board b).cell s = b.cell (σ.inverse.square s) := by
  by_cases h : s.OnBoard
  · exact Board.cell_ofFin _ ⟨s.row, h.row_lt⟩ ⟨s.col, h.col_lt⟩
  · rw [Board.cell_of_not_onBoard _ h, square_of_not_onBoard _ h, Board.cell_of_not_onBoard _ h]

theorem cell_board_square (b : Board) : (σ.board b).cell (σ.square s) = b.cell s := by
  rw [cell_board, square_inverse_square]

theorem board_empty : σ.board .empty = .empty :=
  Board.ext_cell fun s _ => by rw [cell_board, Board.cell_empty, Board.cell_empty]

theorem board_put (b : Board) (s : Square) (v : Cell) :
    σ.board (b.put s v) = (σ.board b).put (σ.square s) v := by
  refine Board.ext_cell fun t _ => ?_
  have hwhere : σ.inverse.square t = s ↔ t = σ.square s := by
    rw [← σ.square_injective.eq_iff, square_square_inverse]
  simp only [cell_board, Board.cell_put, hwhere, onBoard_square]

theorem mem_openSquares_board {b : Board} :
    σ.square s ∈ (σ.board b).openSquares ↔ s ∈ b.openSquares := by
  rw [Board.mem_openSquares, Board.mem_openSquares, onBoard_square, cell_board_square]

theorem claimed_board (b : Board) : (σ.board b).claimed = b.claimed := by
  rw [Board.claimed_eq_countP, Board.claimed_eq_countP, ← σ.perm_map_all.countP_eq,
    List.countP_map]
  refine List.countP_congr fun s _ => ?_
  rw [Function.comp_apply, cell_board_square]

/-- A line of the table goes to a line of the table, though its squares may come in another
order. -/
theorem exists_line {l : Line} (h : l ∈ Line.table) :
    ∃ l' ∈ Line.table, l'.squares ⊆ l.squares.map σ.square := by
  revert l
  cases σ <;> decide

theorem isSome_heldLine?_of {b : Board} {m : Mark} (h : (b.heldLine? m).isSome = true) :
    ((σ.board b).heldLine? m).isSome = true := by
  rw [Board.heldLine?, List.find?_isSome] at h ⊢
  obtain ⟨l, hl, hheld⟩ := h
  obtain ⟨l', hl', hsub⟩ := σ.exists_line hl
  refine ⟨l', hl', List.all_eq_true.2 fun t ht => ?_⟩
  obtain ⟨s, hs, rfl⟩ := List.mem_map.1 (hsub ht)
  rw [cell_board_square]
  exact List.all_eq_true.1 hheld s hs

theorem board_inverse_board (b : Board) : σ.inverse.board (σ.board b) = b :=
  Board.ext_cell fun s _ => by
    rw [cell_board, cell_board, inverse_inverse, square_inverse_square]

theorem isSome_heldLine?_board (b : Board) (m : Mark) :
    ((σ.board b).heldLine? m).isSome = (b.heldLine? m).isSome := by
  refine Bool.eq_iff_iff.2 ⟨fun h => ?_, σ.isSome_heldLine?_of⟩
  have hback := σ.inverse.isSome_heldLine?_of h
  rwa [board_inverse_board] at hback

theorem verdict_board (b : Board) (mover : Mark) (turn : Nat) :
    (σ.board b).verdict mover turn = b.verdict mover turn := by
  rw [Board.verdict, Board.verdict, isSome_heldLine?_board]

/-! ## Games -/

theorem game_new : σ.game .new = .new := by
  rw [game, Game.new, board_empty]
  rfl

theorem after_game (g : Game) (s : Square) (b : Board) :
    (σ.game g).after (σ.square s) (σ.board b) = σ.game (g.after s b) := by
  have hhistory : (g.history ++ [s]).map σ.square = g.history.map σ.square ++ [σ.square s] :=
    List.map_append
  have hverdict := σ.verdict_board b g.player g.turn.toNat
  simp only [game, Game.after, hhistory, hverdict]

theorem recorded_game (g : Game) : (σ.game g).Recorded ↔ g.Recorded := by
  rw [Game.recorded_iff, Game.recorded_iff, game, claimed_board, List.length_map]
  refine and_congr_right fun _ => forall_congr' fun i => ?_
  simp only [List.getElem?_map, Option.map_eq_some_iff, forall_exists_index, and_imp,
    forall_apply_eq_imp_iff₂, cell_board_square]

theorem consistent_game (g : Game) : (σ.game g).Consistent ↔ g.Consistent := by
  have hcount : (σ.game g).CountsTurns ↔ g.CountsTurns := by
    rw [Game.CountsTurns, Game.CountsTurns, game, List.length_map]
  rw [Game.Consistent, Game.Consistent, hcount, recorded_game]
  exact Iff.rfl

/-- A move in any game whatever is answered alike after a symmetry. -/
theorem play_game (g : Game) (s : Square) :
    (σ.game g).play (σ.square s) = σ.result (g.play s) := by
  have hover : (σ.game g).isOver = g.isOver := rfl
  have hturn : (σ.game g).turn = g.turn := rfl
  have hopen : σ.square s ∈ (σ.game g).openSquares ↔ s ∈ g.openSquares := σ.mem_openSquares_board
  have hnext : (σ.game g).after (σ.square s)
      ((σ.game g).board.put (σ.square s) (some (σ.game g).player)) =
        σ.game (g.after s (g.board.put s (some g.player))) := by
    rw [← after_game, board_put]
    rfl
  simp only [Game.play_eq_ite, spellable_square, onBoard_square, hover, hturn, hopen, hnext,
    consistent_game, apply_ite σ.result]
  rfl

theorem playAll_game (g : Game) (moves : List Square) :
    (σ.game g).playAll (moves.map σ.square) = σ.result (g.playAll moves) := by
  induction moves generalizing g with
  | nil => rfl
  | cons s rest ih =>
    rw [List.map_cons, Game.playAll, Game.playAll, play_game]
    cases g.play s with
    | error e => rfl
    | ok next => exact ih next

end Symmetry

/-- Replaying the moves after a symmetry comes to the same answer after the symmetry: the
same game with its board and its history carried along, or the same refusal of the move
where it goes. -/
theorem Game.ofMoves_symmetric (σ : Symmetry) (moves : List Square) :
    ofMoves (moves.map σ.square) = σ.result (ofMoves moves) := by
  have h := σ.playAll_game new moves
  rwa [Symmetry.game_new] at h

/-- The middle of the upper row goes to the middle of the right column, and it is there that
a second mark is refused. -/
example : Game.ofMoves ([⟨0, 1⟩, ⟨0, 1⟩].map Symmetry.quarterTurn.square) =
    .error (.refused (.flawed (.occupied ⟨1, 2⟩))) := by
  decide +kernel

end Noughts
