import Noughts.Game.Play
import Noughts.Proofs.Board.Claims
import Noughts.Proofs.Square.Spelling

/-!
The laws of a game are inductive.

A game is not taken to be reached by moves here.  Its five fields may hold
anything that keeps the three laws: the outcome is free, and a history may name a
square twice.  A move on an open square keeps the laws even so
(`consistent_after`), because the board has nine squares and the history counts
its marks.  `play_of_consistent` is what a move does to such a game, case by
case, and the only fault left in it is a square without a text.  What a move does
to any game at all is `play_eq_ite`.

Each law is settled by one equivalence between the game after a move and the game
before.  So a move on a square that the history does not name keeps the laws and
mends none of them (`consistent_after_iff`).
-/

namespace Noughts
namespace Game

@[simp] theorem board_after (g : Game) (s : Square) (b : Board) : (g.after s b).board = b := rfl

@[simp] theorem history_after (g : Game) (s : Square) (b : Board) :
    (g.after s b).history = g.history ++ [s] := rfl

@[simp] theorem outcome_after (g : Game) (s : Square) (b : Board) :
    (g.after s b).outcome = b.verdict g.player g.turn.toNat := rfl

theorem player_after (g : Game) (s : Square) (b : Board) :
    (g.after s b).player = if (g.after s b).isOver then g.player else g.player.other := rfl

/-- Nine squares bound the turn number, whatever was read into it. -/
theorem Consistent.turn_le {g : Game} (hg : g.Consistent) : g.turn.toNat ≤ 10 := by
  obtain ⟨hturn, -, hcount, -⟩ := hg
  rw [hturn, ← hcount]
  exact Nat.succ_le_succ g.board.claimed_le

theorem Consistent.turn_lt {g : Game} (hg : g.Consistent) : g.turn.toNat + 1 < UInt64.size := by
  have hle := hg.turn_le
  show g.turn.toNat + 1 < 2 ^ 64
  omega

theorem Consistent.turn_eq {g : Game} (hg : g.Consistent) : g.turn.toNat = g.history.length + 1 :=
  hg.1

theorem Consistent.player_eq {g : Game} (hg : g.Consistent) (h : g.isOver = false) :
    g.player = Mark.onTurn g.turn.toNat := by
  simpa [Alternates, h] using hg.2.1

theorem toNat_turn_after {g : Game} (hturn : g.turn.toNat + 1 ≠ UInt64.size) (s : Square)
    (b : Board) : (g.after s b).turn.toNat = g.turn.toNat + 1 := by
  have hlt : g.turn.toNat + 1 < UInt64.size := Nat.lt_of_le_of_ne g.turn.toNat_lt hturn
  show (g.turn + 1).toNat = g.turn.toNat + 1
  rw [UInt64.toNat_add, UInt64.toNat_one, Nat.mod_eq_of_lt hlt]

theorem countsTurns_after_iff {g : Game} (hturn : g.turn.toNat + 1 ≠ UInt64.size) (s : Square)
    (b : Board) : (g.after s b).CountsTurns ↔ g.CountsTurns := by
  rw [CountsTurns, CountsTurns, toNat_turn_after hturn, history_after, List.length_append,
    List.length_singleton, Nat.add_right_cancel_iff]

theorem alternates_after_iff {g : Game} (hturn : g.turn.toNat + 1 ≠ UInt64.size)
    (h : g.isOver = false) (s : Square) (b : Board) :
    (g.after s b).Alternates ↔ g.Alternates := by
  rw [Alternates, Alternates, player_after, toNat_turn_after hturn, h]
  -- If the move ends the game its turn stays the last one, else the other mark is next.
  by_cases hend : (g.after s b).isOver = true
  · rw [if_pos hend, if_pos hend, Nat.add_sub_cancel, if_neg Bool.false_ne_true]
  · rw [if_neg hend, if_neg hend, Mark.onTurn_succ, Mark.other_inj, if_neg Bool.false_ne_true]

theorem recorded_iff {g : Game} :
    g.Recorded ↔ g.board.claimed = g.history.length ∧
      ∀ i s, g.history[i]? = some s → g.board.cell s = some (Mark.onTurn (i + 1)) := by
  refine and_congr_right fun _ => ⟨fun h i s hi => ?_, fun h i hi => ?_⟩
  · obtain ⟨hlt, rfl⟩ := List.getElem?_eq_some_iff.1 hi
    exact h i hlt
  · exact h i _ (List.getElem?_eq_getElem hi)

/-- An open square holds no mark, and a recorded move has left one on its own. -/
theorem Recorded.not_mem_history {g : Game} (hg : g.Recorded) {s : Square}
    (hs : s ∈ g.openSquares) : s ∉ g.history := by
  intro hmem
  obtain ⟨i, hi⟩ := List.mem_iff_getElem?.1 hmem
  have hmark := (recorded_iff.1 hg).2 i s hi
  rw [(Board.mem_openSquares.1 hs).2] at hmark
  cases hmark

/-- A new square is none of those in the history, so the marks of the past are in place after
the move exactly if they were before. -/
theorem recorded_after_iff {g : Game} {s : Square} (hs : s ∈ g.openSquares)
    (hfresh : s ∉ g.history) :
    (g.after s (g.board.put s (some g.player))).Recorded ↔
      g.Recorded ∧ g.player = Mark.onTurn (g.history.length + 1) := by
  obtain ⟨hboard, -⟩ := Board.mem_openSquares.1 hs
  have hpast : ∀ t ∈ g.history, (g.board.put s (some g.player)).cell t = g.board.cell t := by
    intro t ht
    have hne : t ≠ s := fun heq => hfresh (heq ▸ ht)
    rw [Board.cell_put, if_neg fun h => hne h.1]
  have hlast : (g.board.put s (some g.player)).cell s = some g.player := by
    rw [Board.cell_put, if_pos ⟨rfl, hboard⟩]
  rw [recorded_iff, recorded_iff, board_after, history_after, Board.claimed_put hs,
    List.length_append, List.length_singleton, Nat.add_right_cancel_iff]
  constructor
  · rintro ⟨hcount, hmarks⟩
    refine ⟨⟨hcount, fun i t ht => ?_⟩, ?_⟩
    · have hlt := (List.getElem?_eq_some_iff.1 ht).1
      have hmark := hmarks i t (by rwa [List.getElem?_append_left hlt])
      rwa [hpast t (List.mem_of_getElem? ht)] at hmark
    · have hmark := hmarks g.history.length s List.getElem?_concat_length
      rw [hlast] at hmark
      exact Option.some.inj hmark
  · rintro ⟨⟨hcount, hmarks⟩, hplayer⟩
    refine ⟨hcount, fun i t ht => ?_⟩
    rcases Nat.lt_trichotomy i g.history.length with hlt | rfl | hgt
    · rw [List.getElem?_append_left hlt] at ht
      rw [hpast t (List.mem_of_getElem? ht), hmarks i t ht]
    · rw [List.getElem?_concat_length] at ht
      cases ht
      rw [hlast, hplayer]
    · rw [List.getElem?_eq_none (by simp; omega)] at ht
      cases ht

/-- A move on a new square keeps the laws of a game that has kept them, and mends no law that
was broken. -/
theorem consistent_after_iff {g : Game} (hturn : g.turn.toNat + 1 ≠ UInt64.size)
    (h : g.isOver = false) {s : Square} (hs : s ∈ g.openSquares) (hfresh : s ∉ g.history) :
    (g.after s (g.board.put s (some g.player))).Consistent ↔ g.Consistent := by
  rw [Consistent, Consistent, countsTurns_after_iff hturn, alternates_after_iff hturn h,
    recorded_after_iff hs hfresh]
  refine ⟨fun hkept => ⟨hkept.1, hkept.2.1, hkept.2.2.1⟩, fun hg => ⟨hg.1, hg.2.1, hg.2.2, ?_⟩⟩
  rw [Consistent.player_eq hg h, Consistent.turn_eq hg]

theorem consistent_after {g : Game} (hg : g.Consistent) (h : g.isOver = false) {s : Square}
    (hs : s ∈ g.openSquares) : (g.after s (g.board.put s (some g.player))).Consistent :=
  (consistent_after_iff (Nat.ne_of_lt hg.turn_lt) h hs (hg.2.2.not_mem_history hs)).2 hg

theorem play_of_not_spellable (g : Game) {s : Square} (hs : ¬ s.Spellable) :
    g.play s = .error (.fault .overflow) :=
  play_of_text_error (Square.text_of_not_spellable hs) g

/-- What a move does to a game, whatever its fields hold. -/
theorem play_eq_ite (g : Game) (s : Square) :
    g.play s =
      if ¬ s.Spellable then .error (.fault .overflow)
      else if g.isOver then .error (.refused .gameOver)
      else if ¬ s.OnBoard then .error (.refused (.flawed (.offBoard s)))
      else if s ∉ g.openSquares then .error (.refused (.flawed (.occupied s)))
      else if g.turn.toNat + 1 = UInt64.size then .error (.fault .overflow)
      else if (g.after s (g.board.put s (some g.player))).Consistent then
        .ok (g.after s (g.board.put s (some g.player)))
      else .error (.fault (.inconsistent s)) := by
  by_cases hspell : s.Spellable
  · obtain ⟨t, ht⟩ := Square.text_of_spellable hspell
    rw [if_neg (not_not_intro hspell)]
    by_cases hover : g.isOver = true
    · rw [if_pos hover, play_of_isOver hover ht]
    · have hgoes : g.isOver = false := Bool.eq_false_iff.2 hover
      rw [if_neg hover]
      by_cases hboard : s.OnBoard
      · rw [if_neg (not_not_intro hboard)]
        by_cases hopen : s ∈ g.openSquares
        · rw [if_neg (not_not_intro hopen), play_of_mem_openSquares hgoes hopen]
        · obtain ⟨m, hm⟩ : ∃ m, g.board.cell s = some m := by
            rw [← Option.ne_none_iff_exists']
            exact fun hnone => hopen (Board.mem_openSquares.2 ⟨hboard, hnone⟩)
          rw [if_pos hopen, play_of_occupied hgoes hm]
      · rw [if_pos hboard, play_of_not_onBoard hgoes ht hboard]
  · rw [if_pos hspell, play_of_not_spellable g hspell]

/-- What a move does to a game that keeps the laws. -/
theorem play_of_consistent {g : Game} (hg : g.Consistent) (s : Square) :
    g.play s =
      if ¬ s.Spellable then .error (.fault .overflow)
      else if g.isOver then .error (.refused .gameOver)
      else if ¬ s.OnBoard then .error (.refused (.flawed (.offBoard s)))
      else if s ∉ g.openSquares then .error (.refused (.flawed (.occupied s)))
      else .ok (g.after s (g.board.put s (some g.player))) := by
  rw [play_eq_ite, if_neg (Nat.ne_of_lt hg.turn_lt)]
  by_cases hover : g.isOver = true
  · rw [if_pos hover, if_pos hover]
  · by_cases hopen : s ∈ g.openSquares
    · rw [if_pos (consistent_after hg (Bool.eq_false_iff.2 hover) hopen)]
    · rw [if_pos hopen, if_pos hopen]

theorem play_ne_inconsistent {g : Game} (hg : g.Consistent) (s t : Square) :
    g.play s ≠ .error (.fault (.inconsistent t)) := by
  rw [play_of_consistent hg]
  split
  · simp
  · split
    · simp
    · split
      · simp
      · split <;> simp

theorem play_of_spellable {g : Game} (hg : g.Consistent) {s : Square} (hs : s.Spellable) :
    (∃ e, g.play s = .error (.refused e)) ∨ ∃ next, g.play s = .ok next ∧ next.Consistent := by
  rw [play_of_consistent hg, if_neg (not_not_intro hs)]
  by_cases hover : g.isOver = true
  · exact .inl ⟨_, if_pos hover⟩
  · rw [if_neg hover]
    by_cases hboard : s.OnBoard
    · rw [if_neg (not_not_intro hboard)]
      by_cases hopen : s ∈ g.openSquares
      · have hnext := consistent_after hg (Bool.eq_false_iff.2 hover) hopen
        exact .inr ⟨_, if_neg (not_not_intro hopen), hnext⟩
      · exact .inl ⟨_, if_pos hopen⟩
    · exact .inl ⟨_, if_pos hboard⟩

end Game
end Noughts
