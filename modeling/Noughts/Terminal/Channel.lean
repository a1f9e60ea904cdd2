/-!
Channels that may fail.

A channel takes bytes until it has no room left.  The write that does not fit is
cut where the room ends and fails, and so does every later one that has something
to write.  A channel may also fail to flush, which loses nothing.
-/

namespace Noughts

structure Channel where
  /-- The number of bytes still taken, or `none` for as many as come. -/
  room : Option Nat
  flushes : Bool
deriving DecidableEq, Repr

namespace Channel

def reliable : Channel :=
  { room := none, flushes := true }

inductive Failure where
  | full
  | flush
deriving DecidableEq, Repr

def Failure.message : Failure → String
  | full => "failed to write whole buffer"
  | flush => "flush failed"

/-- How many bytes of a write the channel takes. -/
def taken (c : Channel) (size : Nat) : Nat :=
  match c.room with
  | none => size
  | some room => min room size

def after (c : Channel) (size : Nat) : Channel :=
  { c with room := c.room.map (· - size) }

/-- Why writing and then flushing fails, if it does. -/
def failure? (c : Channel) (size : Nat) : Option Failure :=
  if c.taken size < size then some .full
  else if c.flushes then none
  else some .flush

theorem taken_le (c : Channel) (size : Nat) : c.taken size ≤ size := by
  unfold taken
  split <;> omega

@[simp] theorem taken_reliable (size : Nat) : reliable.taken size = size := rfl

@[simp] theorem after_reliable (size : Nat) : reliable.after size = reliable := rfl

@[simp] theorem failure?_reliable (size : Nat) : reliable.failure? size = none := by
  simp [failure?, reliable, taken]

theorem after_after (c : Channel) (m n : Nat) : (c.after m).after n = c.after (m + n) := by
  unfold after
  cases c.room with
  | none => rfl
  | some room => simp [Nat.sub_sub]

end Channel
end Noughts
