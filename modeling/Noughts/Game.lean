import Noughts.Board.Line
import Noughts.Report
import Noughts.Square.Token

/-!
The state of a game and its errors.

A game is plain data.  Its five fields are related in every game that is
reached by moves, and a game that was read from elsewhere may hold any five
values, so the relations are statements about a game (`Noughts.Game.Audit`) and
no part of the type.
-/

namespace Noughts

/-- A board with the mark to move, the number of the coming turn, the squares
claimed so far in order, and how the game stands. -/
structure Game where
  board : Board
  player : Mark
  turn : UInt64
  history : List Square
  outcome : Outcome
deriving DecidableEq

inductive Flaw where
  | unreadable (e : Square.Unreadable)
  | offBoard (s : Square)
  | occupied (s : Square)
deriving DecidableEq, Repr

/-- Why a game declines a move. -/
inductive Refusal where
  | flawed (f : Flaw)
  | gameOver
deriving DecidableEq, Repr

/-- Why a move has no next game. -/
inductive PlayError where
  | refused (e : Refusal)
  | fault (f : Fault)
deriving DecidableEq, Repr

/-- What is said about a flaw.  Nothing can be said of a square that has no text. -/
def Flaw.report : Flaw → Except Fault Report
  | unreadable e => .ok (.wrap "" (.ofMessage e.message))
  | offBoard s => do return .ofMessage ((← s.text) ++ " is off the board")
  | occupied s => do return .ofMessage ((← s.text) ++ " is already taken")

def Refusal.report : Refusal → Except Fault Report
  | flawed f => do return .wrap "Invalid move: " (← f.report)
  | gameOver => .ok (.ofMessage "Game is already over")

namespace Game

def new : Game :=
  { board := .empty, player := .x, turn := 1, history := [], outcome := .inProgress }

def isOver (g : Game) : Bool :=
  g.outcome.isTerminal

/-- The squares that a move may claim while the game lasts. -/
def openSquares (g : Game) : List Square :=
  g.board.openSquares

end Game
end Noughts
