/-!
The two marks of the game and what a square of the board can hold.

`x` moves on odd turns and `o` on even ones, turns being counted from one, so
the mark of a turn is a function of its number alone (`Mark.onTurn`).
-/

namespace Noughts

/-- A player is named by the mark it writes. -/
inductive Mark where
  | x
  | o
deriving DecidableEq, Repr

namespace Mark

def other : Mark → Mark
  | x => o
  | o => x

/-- The mark written on a turn.  Turn zero does not occur in a game, and the
rule extends to it as to every even number. -/
def onTurn (turn : Nat) : Mark :=
  if turn % 2 = 1 then x else o

def text : Mark → String
  | x => "X"
  | o => "O"

theorem other_inj {m n : Mark} : m.other = n.other ↔ m = n := by
  cases m <;> cases n <;> decide

theorem onTurn_succ (turn : Nat) : onTurn (turn + 1) = (onTurn turn).other := by
  rcases Nat.mod_two_eq_zero_or_one turn with h | h
  · have h' : (turn + 1) % 2 = 1 := by omega
    simp [onTurn, h, h', other]
  · have h' : (turn + 1) % 2 = 0 := by omega
    simp [onTurn, h, h', other]

theorem text_injective {m n : Mark} (h : m.text = n.text) : m = n := by
  cases m with
  | x => cases n with
    | x => rfl
    | o => exact absurd h (by decide)
  | o => cases n with
    | x => exact absurd h (by decide)
    | o => rfl

end Mark

/-- What a square holds: a mark, or nothing. -/
abbrev Cell := Option Mark

end Noughts
