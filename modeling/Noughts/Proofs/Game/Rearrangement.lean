import Mathlib.Data.List.Perm.Basic
import Noughts.Proofs.Game.Standing

/-!
The order in which a mark claims its squares does not matter.

Two lists of moves are rearrangements of each other if each mark claims the same
squares in both.  What is read off the claims alone, such as who has a line, is
then the same for both (`Moves.Rearranged.hasLine_iff`).  Whether a prefix has a
line is not, so of two such lists one can be legal and the other end too early;
but that is all that can go wrong (`Moves.Rearranged.refusal_eq_gameOver`), and
where nobody has a line at the end nobody has one before.

Games made from rearranged lists differ in nothing but their history
(`Game.Played.agrees`).
-/

namespace Noughts
namespace Moves

/-- Each mark claims the same squares, in an order of its own. -/
def Rearranged (moves moves' : List Square) : Prop :=
  ∀ m, (claimedBy moves m).Perm (claimedBy moves' m)

/-! ## Claims and the order of moves -/

theorem perm_claimedBy (moves : List Square) :
    (claimedBy moves .x ++ claimedBy moves .o).Perm moves := by
  have hsplit := moves.zipIdx.filter_append_perm fun p => Mark.onTurn (p.2 + 1) = .x
  have hother : (moves.zipIdx.filter fun p => ¬ decide (Mark.onTurn (p.2 + 1) = .x)) =
      moves.zipIdx.filter fun p => Mark.onTurn (p.2 + 1) = .o := by
    refine List.filter_congr fun p _ => ?_
    cases Mark.onTurn (p.2 + 1) <;> rfl
  have hmap := hsplit.map Prod.fst
  rw [List.map_append, List.zipIdx_map_fst] at hmap
  rw [claimedBy, claimedBy, ← hother]
  simpa using hmap

theorem mem_claimedBy_of_take {moves : List Square} {n : Nat} {m : Mark} {s : Square}
    (h : s ∈ claimedBy (moves.take n) m) : s ∈ claimedBy moves m := by
  obtain ⟨i, hi, hm⟩ := mem_claimedBy.1 h
  have hlt : i < n := by
    have hlen := (List.getElem?_eq_some_iff.1 hi).1
    rw [List.length_take] at hlen
    omega
  rw [List.getElem?_take_of_lt hlt] at hi
  exact mem_claimedBy.2 ⟨i, hi, hm⟩

theorem hasLine_of_take {moves : List Square} {n : Nat} {m : Mark}
    (h : HasLine (moves.take n) m) : HasLine moves m :=
  h.mono fun _ hs => mem_claimedBy_of_take hs

theorem Legal.length_le {moves : List Square} (h : Legal moves) : moves.length ≤ 9 := by
  refine Nat.le_of_not_lt fun hlt => h.unfinished 9 hlt (.inl ?_)
  rw [List.length_take]
  omega

namespace Rearranged

variable {moves moves' : List Square}

theorem perm (h : Rearranged moves moves') : moves.Perm moves' :=
  (perm_claimedBy moves).symm.trans (((h .x).append (h .o)).trans (perm_claimedBy moves'))

theorem mem_claimedBy_iff (h : Rearranged moves moves') {m : Mark} {s : Square} :
    s ∈ claimedBy moves m ↔ s ∈ claimedBy moves' m :=
  (h m).mem_iff

theorem hasLine_iff (h : Rearranged moves moves') {m : Mark} :
    HasLine moves m ↔ HasLine moves' m := by
  unfold HasLine
  simp only [h.mem_claimedBy_iff]

/-- A rearrangement of a legal list names only squares of the board, and none of
them twice, so nothing is wrong with a move of it but that the game is over. -/
theorem refusal_eq_gameOver (h : Rearranged moves moves') (hlegal : Legal moves) {i : Nat}
    {s : Square} {e : Refusal} (hfirst : FirstIllegal moves' i s e) :
    e = .gameOver ∧ s.OnBoard := by
  have hboard : s.OnBoard := hlegal.onBoard s (h.perm.mem_iff.2 (List.mem_of_getElem? hfirst.move))
  have hnew : s ∉ moves'.take i := by
    have hnodup : moves'.Nodup := h.perm.nodup_iff.1 hlegal.nodup
    rw [hfirst.eq_append] at hnodup
    intro hmem
    exact (List.nodup_append.1 hnodup).2.2 s hmem s (by simp) rfl
  have hobj := hfirst.objection
  unfold objection at hobj
  by_cases hfin : Finished (moves'.take i)
  · rw [if_pos hfin] at hobj
    exact ⟨(Option.some.inj hobj).symm, hboard⟩
  · rw [if_neg hfin, if_neg (not_not_intro hboard), if_neg hnew] at hobj
    cases hobj

/-- Where nobody has a line at the end, nobody has one before it in any order. -/
theorem legal_of_no_line (h : Rearranged moves moves') (hlegal : Legal moves)
    (hline : ∀ m, ¬ HasLine moves m) : Legal moves' where
  onBoard s hs := hlegal.onBoard s (h.perm.mem_iff.2 hs)
  nodup := h.perm.nodup_iff.1 hlegal.nodup
  unfinished n hn := by
    rintro (hnine | ⟨m, hm⟩)
    · have hle := hlegal.length_le
      rw [h.perm.length_eq] at hle
      rw [List.length_take] at hnine
      omega
    · exact hline m (h.hasLine_iff.2 (hasLine_of_take hm))

end Rearranged
end Moves

namespace Game

/-- The games differ in nothing but their history. -/
structure Agrees (g g' : Game) : Prop where
  board : g'.board = g.board
  player : g'.player = g.player
  turn : g'.turn = g.turn
  outcome : g'.outcome = g.outcome
  openSquares : g'.openSquares = g.openSquares

theorem Played.agrees {moves moves' : List Square} {g g' : Game} (hp : g.Played moves)
    (hp' : g'.Played moves') (h : Moves.Rearranged moves moves') : g.Agrees g' := by
  have hboard : g'.board = g.board := by
    refine Board.ext_cell fun s _ => Option.ext fun m => ?_
    rw [hp.marks, hp'.marks, h.mem_claimedBy_iff]
  have houtcome : g'.outcome = g.outcome := by
    rw [hp.outcome_eq_standing, hp'.outcome_eq_standing, hboard]
  have hturn : g'.turn = g.turn := by
    refine UInt64.toNat_inj.1 ?_
    rw [hp.turn_eq, hp'.turn_eq, h.perm.length_eq]
  have hplayer : g'.player = g.player := by
    obtain ⟨-, halt, -⟩ := hp.consistent
    obtain ⟨-, halt', -⟩ := hp'.consistent
    rw [halt, halt', isOver, isOver, houtcome, hturn]
  exact ⟨hboard, hplayer, hturn, houtcome, by rw [openSquares, openSquares, hboard]⟩

/-- Replaying the moves of a game with the squares of each mark in another order
makes a game that agrees with it.  Only if the game is won can the other order end
too early instead, and then the refusal is that the game is over. -/
theorem ofMoves_rearranged {moves moves' : List Square} {g : Game} (h : ofMoves moves = .ok g)
    (hr : Moves.Rearranged moves moves') :
    ((∀ m, g.outcome ≠ .win m) → ∃ g', ofMoves moves' = .ok g' ∧ g.Agrees g') ∧
      ((∃ m, g.outcome = .win m) →
        (∃ g', ofMoves moves' = .ok g' ∧ g.Agrees g') ∨
          ofMoves moves' = .error (.refused .gameOver)) := by
  have hlegal := legal_of_ofMoves h
  have hp := played_of_ofMoves h
  have hagrees : Moves.Legal moves' → ∃ g', ofMoves moves' = .ok g' ∧ g.Agrees g' := by
    intro hlegal'
    obtain ⟨g', hg', hp'⟩ := ofMoves_of_legal hlegal'
    exact ⟨g', hg', hp.agrees hp' hr⟩
  constructor
  · intro hwin
    have hline : ∀ m, ¬ Moves.HasLine moves m := fun m hm => hwin m ((hp.won m).2 hm)
    exact hagrees (hr.legal_of_no_line hlegal hline)
  · intro _
    by_cases hlegal' : Moves.Legal moves'
    · exact .inl (hagrees hlegal')
    · obtain ⟨i, s, e, hfirst⟩ := Moves.exists_firstIllegal hlegal'
      obtain ⟨rfl, hboard⟩ := hr.refusal_eq_gameOver hlegal hfirst
      refine .inr ?_
      rw [ofMoves_of_firstIllegal hfirst, if_pos hboard.spellable]

/-- With the squares of `x` in another order its line is complete two moves early,
and the sixth move is refused.  After three moves nobody can have a line, and any
order will do. -/
theorem rearranged_early_line :
    (∃ g, ofMoves [⟨0, 0⟩, ⟨0, 1⟩, ⟨1, 0⟩, ⟨1, 1⟩, ⟨2, 2⟩, ⟨0, 2⟩, ⟨2, 0⟩] = .ok g ∧
      g.outcome = .win .x ∧
      ((∃ g', ofMoves [⟨0, 0⟩, ⟨0, 1⟩, ⟨1, 0⟩, ⟨1, 1⟩, ⟨2, 0⟩, ⟨0, 2⟩, ⟨2, 2⟩] = .ok g' ∧
          g.Agrees g') ∨
        ofMoves [⟨0, 0⟩, ⟨0, 1⟩, ⟨1, 0⟩, ⟨1, 1⟩, ⟨2, 0⟩, ⟨0, 2⟩, ⟨2, 2⟩] =
          .error (.refused .gameOver))) ∧
    ∃ g, ofMoves [⟨0, 0⟩, ⟨0, 1⟩, ⟨1, 0⟩] = .ok g ∧
      ∃ g', ofMoves [⟨1, 0⟩, ⟨0, 1⟩, ⟨0, 0⟩] = .ok g' ∧ g.Agrees g' := by
  have hwon : Moves.Legal [⟨0, 0⟩, ⟨0, 1⟩, ⟨1, 0⟩, ⟨1, 1⟩, ⟨2, 2⟩, ⟨0, 2⟩, ⟨2, 0⟩] := by
    decide +kernel
  have hopen : Moves.Legal [⟨0, 0⟩, ⟨0, 1⟩, ⟨1, 0⟩] := by decide +kernel
  obtain ⟨g, hg, hp⟩ := ofMoves_of_legal hwon
  obtain ⟨g', hg', hp'⟩ := ofMoves_of_legal hopen
  have houtcome : g.outcome = .win .x := (hp.won .x).2 (by decide)
  have hnone : ∀ m, g'.outcome ≠ .win m := fun m hm => by
    have hlen := Moves.five_le_length ((hp'.won m).1 hm)
    simp at hlen
  refine ⟨⟨g, hg, houtcome, (ofMoves_rearranged hg ?_).2 ⟨_, houtcome⟩⟩,
    g', hg', (ofMoves_rearranged hg' ?_).1 hnone⟩
  · intro m
    cases m <;> decide
  · intro m
    cases m <;> decide

end Game
end Noughts
