import Mathlib.Data.List.Dedup
import Mathlib.Data.List.Perm.Subperm
import Noughts.Proofs.Game.Consistency

/-!
What the record law says about a board.

The law counts.  It asks for as many marks as there are moves, and for the mark of
each move on its square.  `Game.HoldsRecord` is what one expects of it: the marks of
the moves are on the board and there is no other mark.  For a history without
repetitions the two are the same.

A square that is named twice is one mark and two moves, and with such a history the
law and its meaning never hold together.  A mark too many hides behind the
repetition, and without one the count is short.  `Game.recorded_iff_holdsRecord_iff`
says for which games they come to the same.
-/

namespace Noughts

/-- The squares that hold a mark, in reading order. -/
def Board.claimedSquares (b : Board) : List Square :=
  Square.all.filter fun s => (b.cell s).isSome

theorem Board.mem_claimedSquares {b : Board} {s : Square} :
    s ∈ b.claimedSquares ↔ b.cell s ≠ none := by
  rw [claimedSquares, List.mem_filter, Square.mem_all, Option.isSome_iff_ne_none]
  refine ⟨And.right, fun h => ⟨?_, h⟩⟩
  exact Decidable.byContradiction fun hs => h (b.cell_of_not_onBoard hs)

theorem Board.length_claimedSquares (b : Board) : b.claimedSquares.length = b.claimed := by
  rw [claimedSquares, ← List.countP_eq_length_filter, claimed_eq_countP]

theorem Board.nodup_claimedSquares (b : Board) : b.claimedSquares.Nodup :=
  Square.nodup_all.filter _

namespace Game

/-- Every move of the history is on the board and finds the mark of its turn there. -/
def ShowsRecord (g : Game) : Prop :=
  ∀ i s, g.history[i]? = some s → s.OnBoard ∧ g.board.cell s = some (Mark.onTurn (i + 1))

/-- The board holds exactly the marks recorded in the history. -/
structure HoldsRecord (g : Game) : Prop where
  shown : g.ShowsRecord
  named : ∀ s, g.board.cell s ≠ none → s ∈ g.history

variable {g : Game}

theorem recorded_iff_showsRecord :
    g.Recorded ↔ g.board.claimed = g.history.length ∧ g.ShowsRecord := by
  rw [recorded_iff]
  refine and_congr_right fun _ => ⟨fun h i s hi => ⟨?_, h i s hi⟩, fun h i s hi => (h i s hi).2⟩
  -- There is no mark off the board, so a move with a mark is on it.
  refine Decidable.byContradiction fun hs => ?_
  have hmark := h i s hi
  rw [g.board.cell_of_not_onBoard hs] at hmark
  cases hmark

theorem ShowsRecord.subset (h : g.ShowsRecord) : g.history ⊆ g.board.claimedSquares := by
  intro s hs
  obtain ⟨i, hi⟩ := List.mem_iff_getElem?.1 hs
  rw [Board.mem_claimedSquares, (h i s hi).2]
  exact Option.some_ne_none _

/-- With the marks of all moves in place, a further mark is one that makes the marks
more than the squares named. -/
theorem ShowsRecord.holdsRecord_iff (h : g.ShowsRecord) :
    g.HoldsRecord ↔ g.board.claimed = g.history.dedup.length := by
  have hsub : g.history.dedup.Subperm g.board.claimedSquares :=
    (List.nodup_dedup _).subperm (List.Subset.trans (List.dedup_subset _) h.subset)
  rw [← Board.length_claimedSquares]
  constructor
  · intro hholds
    have hsup : g.board.claimedSquares.Subperm g.history.dedup := by
      apply g.board.nodup_claimedSquares.subperm
      intro s hs
      exact List.mem_dedup.2 (hholds.named s (Board.mem_claimedSquares.1 hs))
    exact Nat.le_antisymm hsup.length_le hsub.length_le
  · intro hlength
    have hperm := hsub.perm_of_length_le (Nat.le_of_eq hlength)
    refine ⟨h, fun s hs => ?_⟩
    rw [← List.mem_dedup, hperm.mem_iff]
    exact Board.mem_claimedSquares.2 hs

theorem nodup_iff_length_dedup {l : List Square} : l.Nodup ↔ l.dedup.length = l.length := by
  refine ⟨fun h => by rw [h.dedup], fun h => ?_⟩
  have hself := (List.dedup_sublist l).eq_of_length h
  rw [← hself]
  exact List.nodup_dedup l

/-- The law means what it says of a game unless the history repeats a square, all its
marks are in place, and there are either as many marks as moves or as many as
different squares among them.  With a repetition the law and its meaning exclude each
other. -/
theorem recorded_iff_holdsRecord_iff (g : Game) :
    ((g.Recorded ↔ g.HoldsRecord) ↔
      g.history.Nodup ∨ ¬ g.ShowsRecord ∨
        (g.board.claimed ≠ g.history.length ∧ g.board.claimed ≠ g.history.dedup.length)) ∧
    (¬ g.history.Nodup → ¬ (g.Recorded ∧ g.HoldsRecord)) := by
  rw [recorded_iff_showsRecord, nodup_iff_length_dedup]
  by_cases h : g.ShowsRecord
  · rw [h.holdsRecord_iff]
    simp only [h, and_true, not_true_eq_false, false_or]
    omega
  · have hholds : ¬ g.HoldsRecord := fun hholds => h hholds.shown
    simp [h, hholds]

/-- The third move names the first square again, so two marks stand for three moves. -/
def repeatedMove : Game :=
  { board := (Board.empty.put ⟨0, 0⟩ (some .x)).put ⟨1, 1⟩ (some .o)
    player := .o
    turn := 4
    history := [⟨0, 0⟩, ⟨1, 1⟩, ⟨0, 0⟩]
    outcome := .inProgress }

/-- The same with one mark more, where nobody has moved. -/
def strayMark : Game :=
  { repeatedMove with board := repeatedMove.board.put ⟨2, 2⟩ (some .o) }

theorem showsRecord_repeatedMove : repeatedMove.ShowsRecord := by
  intro i s hi
  rcases i with _ | _ | _ | i <;> cases hi <;> decide +kernel

/-- The law holds of the game with a mark that its history does not have, and fails
for the one whose board holds exactly what is recorded. -/
theorem not_recorded_iff_holdsRecord_stray_mark :
    (strayMark.Recorded ∧ ¬ strayMark.HoldsRecord) ∧
      ¬ repeatedMove.Recorded ∧ repeatedMove.HoldsRecord := by
  have hrecorded : strayMark.Recorded := by decide +kernel
  refine ⟨⟨hrecorded, fun hholds => ?_⟩, by decide +kernel, ?_⟩
  · have hcount := (recorded_iff_showsRecord.1 hrecorded).2.holdsRecord_iff.1 hholds
    exact absurd hcount (by decide +kernel)
  · exact showsRecord_repeatedMove.holdsRecord_iff.2 (by decide +kernel)

end Game
end Noughts
