import Noughts.Square

/-!
What stops the program for good.

A refused move or a missing line of input is an answer that the players can act
on.  A fault is none: it means that the program itself can not go on, and
whatever was being done ends without a result.
-/

namespace Noughts

inductive Fault where
  /-- A count that goes past the greatest word of 64 bits. -/
  | overflow
  /-- A field too wide to be drawn. -/
  | tooWide
  /-- A move after which the game contradicts itself. -/
  | inconsistent (after : Square)
deriving DecidableEq, Repr

end Noughts
