import Noughts.Game

/-!
The laws that hold of every game reached by moves.

Each law is a proposition about a game, decidable because a move checks all of
them on the game it makes.  `Game.Consistent` is their conjunction and
`Game.violations` lists the ones that fail.
-/

namespace Noughts

def Game.CountsTurns (g : Game) : Prop :=
  g.turn.toNat = g.history.length + 1

/-- The mark to move is the one of the coming turn, and after the end it is the
one of the last turn. -/
def Game.Alternates (g : Game) : Prop :=
  g.player = Mark.onTurn (if g.isOver then g.turn.toNat - 1 else g.turn.toNat)

/-- The board holds as many marks as the history has moves, and each move finds
its mark on its square. -/
def Game.Recorded (g : Game) : Prop :=
  g.board.claimed = g.history.length ∧
    ∀ i (h : i < g.history.length), g.board.cell g.history[i] = some (Mark.onTurn (i + 1))

instance (g : Game) : Decidable g.CountsTurns :=
  inferInstanceAs (Decidable (_ = _))

instance (g : Game) : Decidable g.Alternates :=
  inferInstanceAs (Decidable (_ = _))

instance (g : Game) : Decidable g.Recorded :=
  inferInstanceAs (Decidable (_ ∧ _))

inductive Law where
  | turnCount
  | alternation
  | record
deriving DecidableEq, Repr

namespace Law

def all : List Law :=
  [turnCount, alternation, record]

def Holds (g : Game) : Law → Prop
  | turnCount => g.CountsTurns
  | alternation => g.Alternates
  | record => g.Recorded

instance (g : Game) (l : Law) : Decidable (l.Holds g) :=
  match l with
  | turnCount => inferInstanceAs (Decidable g.CountsTurns)
  | alternation => inferInstanceAs (Decidable g.Alternates)
  | record => inferInstanceAs (Decidable g.Recorded)

def text : Law → String
  | turnCount => "Turn counter equals accepted moves + 1"
  | alternation => "Players alternate turns (X, O, X, O, ...)"
  | record => "Board marks match move history"

end Law

namespace Game

def violations (g : Game) : List Law :=
  Law.all.filter fun l => ¬ l.Holds g

def Consistent (g : Game) : Prop :=
  g.CountsTurns ∧ g.Alternates ∧ g.Recorded

instance (g : Game) : Decidable g.Consistent :=
  inferInstanceAs (Decidable (_ ∧ _))

theorem violations_eq_nil_iff {g : Game} : g.violations = [] ↔ g.Consistent := by
  simp only [violations, List.filter_eq_nil_iff, decide_eq_true_eq, Decidable.not_not]
  simp [Law.all, Consistent, Law.Holds]

theorem consistent_new : new.Consistent := by decide

end Game
end Noughts
