import Noughts.Proofs.Game.Consistency
import Noughts.Proofs.Game.Legal

/-!
Games made from lists of moves.

`Game.Played` ties a game to the list of moves it was made by, and one more move
on an open square keeps the tie (`Played.after`).  What a move does to a played
game is therefore known from the list alone (`Played.play_eq`), and so is what the
whole list does (`ofMoves_of_legal`, `ofMoves_of_firstIllegal`).

`Moves.ReplayLaw` is what a player may expect of replaying a list: a game for a
legal one, and the refusal of its first illegal move for any other.
-/

namespace Noughts
namespace Game

/-- The game and the moves that made it agree.  Whether the game is over and who
has won is read off the moves, and a line belongs to the mark that moved last. -/
structure Played (moves : List Square) (g : Game) : Prop where
  history : g.history = moves
  consistent : g.Consistent
  marks : ∀ s m, g.board.cell s = some m ↔ s ∈ Moves.claimedBy moves m
  won : ∀ m, g.outcome = .win m ↔ Moves.HasLine moves m
  drawn : g.outcome = .draw ↔ moves.length = 9 ∧ ∀ m, ¬ Moves.HasLine moves m
  mover : ∀ m, Moves.HasLine moves m → Mark.onTurn moves.length = m

theorem played_new : new.Played [] where
  history := rfl
  consistent := consistent_new
  marks s m := by simp [new, Moves.claimedBy]
  won m := by
    constructor
    · intro h
      cases h
    · intro hline
      have hlen := Moves.five_le_length hline
      simp at hlen
  drawn := by
    constructor
    · intro h
      cases h
    · intro h
      simp at h
  mover m hline := by
    have hlen := Moves.five_le_length hline
    simp at hlen

namespace Played

variable {moves : List Square} {g : Game}

theorem cell_eq_none_iff (hp : g.Played moves) {s : Square} :
    g.board.cell s = none ↔ s ∉ moves := by
  rw [Moves.mem_iff_claimedBy, Option.eq_none_iff_forall_ne_some, not_exists]
  exact forall_congr' fun m => not_congr (hp.marks s m)

theorem mem_openSquares_iff (hp : g.Played moves) {s : Square} :
    s ∈ g.openSquares ↔ s.OnBoard ∧ s ∉ moves := by
  rw [openSquares, Board.mem_openSquares, hp.cell_eq_none_iff]

theorem hasLine_iff (hp : g.Played moves) {m : Mark} :
    g.board.HasLine m ↔ Moves.HasLine moves m := by
  rw [Board.hasLine_iff_lined, Moves.HasLine]
  simp only [hp.marks]

theorem isOver_iff (hp : g.Played moves) : g.isOver = true ↔ Moves.Finished moves := by
  constructor
  · intro h
    cases ho : g.outcome with
    | inProgress => simp [isOver, ho, Outcome.isTerminal] at h
    | win m => exact .inr ⟨m, (hp.won m).1 ho⟩
    | draw => exact .inl (hp.drawn.1 ho).1
  · intro h
    by_cases hline : ∃ m, Moves.HasLine moves m
    · obtain ⟨m, hline⟩ := hline
      rw [isOver, (hp.won m).2 hline]
      rfl
    · have hlen : moves.length = 9 := h.resolve_right hline
      rw [isOver, hp.drawn.2 ⟨hlen, not_exists.1 hline⟩]
      rfl

theorem isOver_eq_false_iff (hp : g.Played moves) :
    g.isOver = false ↔ ¬ Moves.Finished moves := by
  rw [← hp.isOver_iff, Bool.not_eq_true]

theorem turn_eq (hp : g.Played moves) : g.turn.toNat = moves.length + 1 := by
  rw [hp.consistent.turn_eq, hp.history]

theorem player_eq (hp : g.Played moves) (h : g.isOver = false) :
    g.player = Mark.onTurn (moves.length + 1) := by
  rw [hp.consistent.player_eq h, hp.turn_eq]

theorem marks_put (hp : g.Played moves) (h : g.isOver = false) {s : Square}
    (hs : s ∈ g.openSquares) (t : Square) (m : Mark) :
    (g.board.put s (some g.player)).cell t = some m ↔ t ∈ Moves.claimedBy (moves ++ [s]) m := by
  obtain ⟨hboard, hmem⟩ := hp.mem_openSquares_iff.1 hs
  rw [Board.cell_put, Moves.mem_claimedBy_append, ← hp.player_eq h]
  by_cases hts : t = s
  · subst hts
    have hclaim : t ∉ Moves.claimedBy moves m := fun hclaim =>
      hmem (Moves.mem_iff_claimedBy.2 ⟨m, hclaim⟩)
    simp [hboard, hclaim]
  · simp [hts, hp.marks]

theorem after (hp : g.Played moves) (h : g.isOver = false) {s : Square}
    (hs : s ∈ g.openSquares) :
    (g.after s (g.board.put s (some g.player))).Played (moves ++ [s]) := by
  have hmarks := hp.marks_put h hs
  -- Before the move nobody has a line, and it gives one to nobody but its mover,
  -- so looking at the mover alone misses nothing.
  have hnone : ∀ m, ¬ Moves.HasLine moves m := fun m hline =>
    hp.isOver_eq_false_iff.1 h (.inr ⟨m, hline⟩)
  have hmover : ∀ m, Moves.HasLine (moves ++ [s]) m → g.player = m := fun m hline => by
    rw [hp.player_eq h]
    exact Moves.eq_mover_of_hasLine_append (hnone m) hline
  have hboard : ∀ m, (g.board.put s (some g.player)).HasLine m ↔
      Moves.HasLine (moves ++ [s]) m := fun m => by
    rw [Board.hasLine_iff_lined, Moves.HasLine]
    simp only [hmarks]
  refine ⟨?_, consistent_after hp.consistent h hs, hmarks, fun m => ?_, ?_, fun m hline => ?_⟩
  · rw [history_after, hp.history]
  · rw [outcome_after, Board.verdict_eq_win_iff, hboard]
    constructor
    · rintro ⟨-, hline, rfl⟩
      exact hline
    · intro hline
      -- A line takes five moves, so it is not missed before the fourth turn.
      have hlen := Moves.five_le_length hline
      rw [List.length_append, List.length_singleton] at hlen
      obtain rfl := hmover m hline
      exact ⟨by rw [hp.turn_eq]; omega, hline, rfl⟩
  · rw [outcome_after, Board.verdict_eq_draw_iff, hboard, hp.turn_eq, List.length_append,
      List.length_singleton]
    refine and_congr_right fun _ => ⟨fun hline m hm => hline ?_, fun hline => hline _⟩
    rwa [hmover m hm]
  · rw [List.length_append, List.length_singleton, ← hp.player_eq h]
    exact hmover m hline

/-- What a move does to a played game, as far as the moves can tell. -/
theorem play_eq (hp : g.Played moves) (s : Square) :
    g.play s =
      match Moves.objection moves s with
      | none => .ok (g.after s (g.board.put s (some g.player)))
      | some e => .error (if s.Spellable then .refused e else .fault .overflow) := by
  rw [play_of_consistent hp.consistent, Moves.objection]
  by_cases hspell : s.Spellable
  · by_cases hfin : Moves.Finished moves
    · simp [hspell, hfin, hp.isOver_iff.2 hfin]
    · have hover := hp.isOver_eq_false_iff.2 hfin
      by_cases hboard : s.OnBoard <;> by_cases hmem : s ∈ moves <;>
        simp [hspell, hfin, hover, hboard, hmem, hp.mem_openSquares_iff]
  · have hboard : ¬ s.OnBoard := fun hboard => hspell hboard.spellable
    by_cases hfin : Moves.Finished moves <;> simp [hspell, hfin, hboard]

end Played

theorem ofMoves_append_singleton {moves : List Square} {g : Game} (h : ofMoves moves = .ok g)
    (s : Square) : ofMoves (moves ++ [s]) = g.play s := by
  rw [ofMoves, playAll_append, ← ofMoves, h]
  cases hplay : g.play s <;> simp only [playAll, hplay]

/-- A played move prolongs the list that the game replays. -/
theorem ofMoves_history_of_play {g next : Game} {s : Square}
    (h : ofMoves g.history = .ok g) (hplay : g.play s = .ok next) :
    ofMoves next.history = .ok next := by
  have hhistory : next.history = g.history ++ [s] := by
    obtain ⟨-, -, rfl, -⟩ := play_eq_ok_iff.1 hplay
    rfl
  rw [hhistory, ofMoves_append_singleton h, hplay]

theorem ofMoves_of_legal {moves : List Square} (h : Moves.Legal moves) :
    ∃ g, ofMoves moves = .ok g ∧ g.Played moves := by
  induction moves using List.reverseRecOn with
  | nil => exact ⟨new, rfl, played_new⟩
  | append_singleton moves s ih =>
    obtain ⟨hbefore, hobj⟩ := Moves.legal_append_singleton.1 h
    obtain ⟨g, hg, hp⟩ := ih hbefore
    obtain ⟨hfin, hboard, hmem⟩ := Moves.objection_eq_none_iff.1 hobj
    have hover := hp.isOver_eq_false_iff.2 hfin
    refine ⟨_, ?_, hp.after hover (hp.mem_openSquares_iff.2 ⟨hboard, hmem⟩)⟩
    rw [ofMoves_append_singleton hg, hp.play_eq, hobj]

/-- The first illegal move is refused for what is wrong with it, unless it has no
text, and no later move matters. -/
theorem ofMoves_of_firstIllegal {moves : List Square} {i : Nat} {s : Square} {e : Refusal}
    (h : Moves.FirstIllegal moves i s e) :
    ofMoves moves = .error (if s.Spellable then .refused e else .fault .overflow) := by
  obtain ⟨g, hg, hp⟩ := ofMoves_of_legal h.legal_take
  have hplay := hp.play_eq s
  rw [h.objection] at hplay
  rw [h.eq_append, ofMoves, playAll_append, ← ofMoves, hg]
  simp only [playAll, hplay]

theorem legal_of_ofMoves {moves : List Square} {g : Game} (h : ofMoves moves = .ok g) :
    Moves.Legal moves := by
  refine Decidable.byContradiction fun hlegal => ?_
  obtain ⟨i, s, e, hfirst⟩ := Moves.exists_firstIllegal hlegal
  rw [ofMoves_of_firstIllegal hfirst] at h
  cases h

theorem played_of_ofMoves {moves : List Square} {g : Game} (h : ofMoves moves = .ok g) :
    g.Played moves := by
  obtain ⟨g', hg', hp⟩ := ofMoves_of_legal (legal_of_ofMoves h)
  rw [h] at hg'
  exact Except.ok.inj hg' ▸ hp

end Game

namespace Moves

/-- What the game made from a list of moves shows of them. -/
structure ShownBy (moves : List Square) (g : Game) : Prop where
  history : g.history = moves
  turn : g.turn.toNat = moves.length + 1
  marks : ∀ s m, g.board.cell s = some m ↔ s ∈ claimedBy moves m
  blanks : ∀ s, g.board.cell s = none ↔ s ∉ moves

/-- What replaying a list of moves should come to. -/
structure ReplayLaw (moves : List Square) : Prop where
  accepted : (∃ g, Game.ofMoves moves = .ok g) ↔ Legal moves
  shown : ∀ g, Game.ofMoves moves = .ok g → ShownBy moves g
  refused : ¬ Legal moves →
    ∃ i s e, FirstIllegal moves i s e ∧ Game.ofMoves moves = .error (.refused e)

/-- Replaying keeps its law on exactly the lists whose first illegal move, if they
have one, can be spelled.  On all others it ends in a fault. -/
theorem replayLaw_iff_spellable (moves : List Square) :
    (ReplayLaw moves ↔ ∀ i s e, FirstIllegal moves i s e → s.Spellable) ∧
      ∀ i s e, FirstIllegal moves i s e → ¬ s.Spellable →
        Game.ofMoves moves = .error (.fault .overflow) := by
  have hfault : ∀ i s e, FirstIllegal moves i s e → ¬ s.Spellable →
      Game.ofMoves moves = .error (.fault .overflow) := fun i s e hfirst hspell => by
    rw [Game.ofMoves_of_firstIllegal hfirst, if_neg hspell]
  refine ⟨⟨fun hlaw i s e hfirst => ?_,
    fun hspell => ⟨?_, fun g hg => ?_, fun hlegal => ?_⟩⟩, hfault⟩
  · refine Decidable.byContradiction fun hs => ?_
    obtain ⟨i', s', e', -, hrefused⟩ := hlaw.refused hfirst.not_legal
    rw [hfault i s e hfirst hs] at hrefused
    cases hrefused
  · exact ⟨fun ⟨g, hg⟩ => Game.legal_of_ofMoves hg, fun hlegal =>
      (Game.ofMoves_of_legal hlegal).imp fun g hg => hg.1⟩
  · have hp := Game.played_of_ofMoves hg
    exact ⟨hp.history, hp.turn_eq, hp.marks, fun s => hp.cell_eq_none_iff⟩
  · obtain ⟨i, s, e, hfirst⟩ := exists_firstIllegal hlegal
    refine ⟨i, s, e, hfirst, ?_⟩
    rw [Game.ofMoves_of_firstIllegal hfirst, if_pos (hspell i s e hfirst)]

/-- The last word names a row off the board, and looking it up ends in a fault
where a refusal is due. -/
theorem not_replayLaw_last_row : ¬ ReplayLaw [⟨0, 0⟩, ⟨18446744073709551615, 1⟩] := by
  intro hlaw
  have hfault : Game.ofMoves [⟨0, 0⟩, ⟨18446744073709551615, 1⟩] = .error (.fault .overflow) := by
    decide +kernel
  have hlegal : ¬ Legal [⟨0, 0⟩, ⟨18446744073709551615, 1⟩] := by decide +kernel
  obtain ⟨i, s, e, -, hrefused⟩ := hlaw.refused hlegal
  rw [hfault] at hrefused
  cases hrefused

end Moves
end Noughts
