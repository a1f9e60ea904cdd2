import Noughts.Game
import Noughts.Terminal.Glyphs
import Noughts.Text.Centred

/-!
Everything the terminal says, as text.

The board is drawn as a grid of fields of one width, the width of the widest
glyph.  Each line of the grid starts with three characters and a bar, and each
field is closed by a bar, so the bars of all lines stand below each other.
-/

namespace Noughts
namespace Drawing

/-- Fields of one width, each closed by a bar. -/
def fields (width : Nat) (texts : List (List Char)) : List Char :=
  texts.flatMap fun t => Text.centre width t ++ ['|']

def rule (width : Nat) : List Char :=
  [' ', ' ', ' '] ++ List.replicate ((width + 1) * 3 + 1) '-'

def header (width : Nat) : List Char :=
  [' ', ' ', ' ', '|'] ++
    fields width ((List.finRange 3).map fun c => [Square.columnLetter c])

def gridRow (glyphs : Palette) (b : Board) (r : Fin 3) : List Char :=
  [' ', Square.rowDigit r, ' ', '|'] ++
    fields glyphs.width ((List.finRange 3).map fun c => (glyphs.glyph (b.grid r c)).toList)

def playerLine (m : Mark) : List Char :=
  "Player: ".toList ++ m.text.toList

/-- The nine lines of a drawing: the mark to move, the column letters, and the
rows of the board with a rule before and after each. -/
def lines (glyphs : Palette) (g : Game) : List (List Char) :=
  [playerLine g.player, header glyphs.width, rule glyphs.width] ++
    (List.finRange 3).flatMap fun r => [gridRow glyphs g.board r, rule glyphs.width]

def board (glyphs : Palette) (g : Game) : List Char :=
  ['\n'].intercalate (lines glyphs g)

/-- What is shown of a game: the drawing, and the result once there is one. -/
def screen (glyphs : Palette) (g : Game) : List Char :=
  board glyphs g ++ (if g.isOver then '\n' :: g.outcome.text.toList else []) ++ ['\n']

def refusal (e : Refusal) : Except Fault (List Char) := do
  return (← e.report).message.toList ++ ". Please enter again\n".toList

/-- The question for a move, which offers the squares to choose from. -/
def prompt (squares : List Square) : Except Fault (List Char) := do
  let texts ← squares.mapM Square.chars
  return "select location [".toList ++ [',', ' '].intercalate texts ++ "]: ".toList

end Drawing
end Noughts
