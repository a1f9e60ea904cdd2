import Noughts.Session

/-!
Sessions played from a script.

A script is the list of what asking will yield: tokens and failures, and the end
of the list means that the input is closed.  Its host shows nothing.  It keeps a
log of what it was told, in order, so that a run can be compared with another
run call by call.
-/

namespace Noughts

/-- One call that a session makes on its host. -/
inductive Event where
  | asked (offered : List Square)
  | displayed (g : Game)
  | declined (e : Refusal)
deriving DecidableEq

/-- What asking will yield, and the calls so far. -/
structure Script where
  items : List (Except InputError String)
  log : List Event

namespace Script

def ofItems (items : List (Except InputError String)) : Script :=
  { items, log := [] }

/-- Yields the next item.  An exhausted script stays closed. -/
def ask (s : Script) (offered : List Square) : Except SessionError String × Script :=
  match s.items with
  | [] => (.error (.input .closed), { s with log := s.log ++ [.asked offered] })
  | item :: rest =>
    (item.mapError .input, { items := rest, log := s.log ++ [.asked offered] })

def note (s : Script) (e : Event) : Script :=
  { s with log := s.log ++ [e] }

theorem length_items_ask (s : Script) (offered : List Square) (token : String)
    (h : (s.ask offered).1 = .ok token) : (s.ask offered).2.items.length < s.items.length := by
  unfold ask at h ⊢
  cases hi : s.items with
  | nil => rw [hi] at h; cases h
  | cons item rest => simp

def host : Host Script where
  ask := ask
  display s g := s.note (.displayed g)
  decline s e := .ok (s.note (.declined e))
  supply s := s.items.length
  supply_ask := length_items_ask
  supply_display _ _ := Nat.le_refl _
  supply_decline s e next h := by cases h; exact Nat.le_refl _

end Script
end Noughts
