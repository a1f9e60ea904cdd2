import Noughts.Mark

/-!
How a game stands: undecided, won by a mark, or drawn.
-/

namespace Noughts

inductive Outcome where
  | inProgress
  | win (mark : Mark)
  | draw
deriving DecidableEq, Repr

namespace Outcome

/-- No move follows a terminal outcome. -/
def isTerminal : Outcome → Bool
  | inProgress => false
  | win _ => true
  | draw => true

def winner : Outcome → Option Mark
  | win m => some m
  | _ => none

def text : Outcome → String
  | inProgress => "in progress"
  | win m => "winner is " ++ m.text
  | draw => "tie!"

theorem isTerminal_eq_false_iff {o : Outcome} : o.isTerminal = false ↔ o = inProgress := by
  cases o <;> simp [isTerminal]

theorem text_injective {o o' : Outcome} (h : o.text = o'.text) : o = o' := by
  cases o with
  | inProgress => cases o' with
    | inProgress => rfl
    | win n => cases n <;> exact absurd h (by decide)
    | draw => exact absurd h (by decide)
  | win m => cases o' with
    | inProgress => cases m <;> exact absurd h (by decide)
    | win n => rw [Mark.text_injective ((String.append_right_inj _).1 h)]
    | draw => cases m <;> exact absurd h (by decide)
  | draw => cases o' with
    | inProgress => exact absurd h (by decide)
    | win n => cases n <;> exact absurd h (by decide)
    | draw => rfl

end Outcome
end Noughts
