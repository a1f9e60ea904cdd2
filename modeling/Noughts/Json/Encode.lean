import Noughts.Game
import Noughts.Json

/-!
The JSON form of a game and of its parts.

Marks and squares are written as players write them, an empty square and the
outcomes by name.  A won game carries its winner: `{"Win":"X"}`.
-/

namespace Noughts

def Mark.toJson (m : Mark) : Json :=
  .string m.text

def Cell.toJson : Cell → Json
  | none => .string "Empty"
  | some m => m.toJson

def Outcome.toJson : Outcome → Json
  | .inProgress => .string "InProgress"
  | .win m => .object [("Win", m.toJson)]
  | .draw => .string "Draw"

/-- A square by its text, if it has one. -/
def Square.toJson (s : Square) : Except Fault Json := do
  return .string (← s.text)

def Square.listToJson (moves : List Square) : Except Fault Json := do
  return .array (← moves.mapM Square.toJson)

def Board.toJson (b : Board) : Json :=
  .object [("cells", .array (b.rows.map fun row => .array (row.map Cell.toJson)))]

def Game.toJson (g : Game) : Except Fault Json := do
  let history ← Square.listToJson g.history
  return .object
    [("board", g.board.toJson), ("current_player", g.player.toJson),
     ("turn", .integer g.turn.toNat), ("history", history), ("outcome", g.outcome.toJson)]

end Noughts
