import Noughts.Proofs.Game.Consistency

/-!
A broken law is noticed.

A game that was read from elsewhere may break any law, and a move audits nothing but
the game that it makes.  That is enough.  A move on a square that the history does not
name can not mend a law (`consistent_after_iff`), so whatever is wrong with the game is
still wrong after the move, and the audit ends in a fault (`Game.Detects`).

A move that can not be made is refused and the laws are not looked at
(`Game.Refuses`), as long as its square can be spelled.
-/

namespace Noughts
namespace Game

/-- A move on an open square of a game that goes on is made if the game keeps the laws,
and ends in a fault if it breaks one. -/
structure Detects (g : Game) (s : Square) : Prop where
  accepted : (∃ next, g.play s = .ok next) ↔
    g.isOver = false ∧ s ∈ g.openSquares ∧ g.Consistent
  caught : g.isOver = false → s ∈ g.openSquares → ¬ g.Consistent →
    g.play s =
      .error (.fault (if g.turn.toNat + 1 = UInt64.size then .overflow else .inconsistent s))

/-- Any other move is refused for what is in its way, whatever laws the game breaks. -/
structure Refuses (g : Game) (s : Square) : Prop where
  finished : g.isOver = true → g.play s = .error (.refused .gameOver)
  offBoard : g.isOver = false → ¬ s.OnBoard →
    g.play s = .error (.refused (.flawed (.offBoard s)))
  occupied : g.isOver = false → s.OnBoard → s ∉ g.openSquares →
    g.play s = .error (.refused (.flawed (.occupied s)))

variable {g : Game} {s : Square}

theorem exists_play_iff (hfresh : s ∉ g.history) :
    (∃ next, g.play s = .ok next) ↔ g.isOver = false ∧ s ∈ g.openSquares ∧ g.Consistent := by
  constructor
  · rintro ⟨next, hnext⟩
    obtain ⟨⟨hover, hopen⟩, hturn, rfl, hkept⟩ := play_eq_ok_iff.1 hnext
    exact ⟨hover, hopen, (consistent_after_iff hturn hover hopen hfresh).1 hkept⟩
  · rintro ⟨hover, hopen, hg⟩
    have hturn := Nat.ne_of_lt hg.turn_lt
    exact ⟨_, play_eq_ok_iff.2 ⟨⟨hover, hopen⟩, hturn, rfl, consistent_after hg hover hopen⟩⟩

theorem play_of_not_consistent (hfresh : s ∉ g.history) (hover : g.isOver = false)
    (hopen : s ∈ g.openSquares) (hg : ¬ g.Consistent) :
    g.play s =
      .error (.fault (if g.turn.toNat + 1 = UInt64.size then .overflow else .inconsistent s)) := by
  rw [play_of_mem_openSquares hover hopen]
  by_cases hturn : g.turn.toNat + 1 = UInt64.size
  · rw [if_pos hturn, if_pos hturn]
  · rw [if_neg hturn, if_neg hturn,
      if_neg fun hkept => hg ((consistent_after_iff hturn hover hopen hfresh).1 hkept)]

theorem refuses_of_spellable (g : Game) (hs : s.Spellable) : g.Refuses s := by
  have hplay := g.play_eq_ite s
  rw [if_neg (not_not_intro hs)] at hplay
  refine ⟨fun hover => ?_, fun hover hboard => ?_, fun hover hboard hopen => ?_⟩
  · rw [hplay, if_pos hover]
  · rw [hplay, hover, if_neg Bool.false_ne_true, if_pos hboard]
  · rw [hplay, hover, if_neg Bool.false_ne_true, if_neg (not_not_intro hboard), if_pos hopen]

/-- Squares of the board can be spelled, so a square that can not be is none of them and
should have been refused. -/
theorem not_refuses_of_not_spellable (g : Game) (hs : ¬ s.Spellable) : ¬ g.Refuses s := by
  intro hrefuses
  have hfault := play_of_not_spellable g hs
  cases hover : g.isOver with
  | true =>
    rw [hrefuses.finished hover] at hfault
    cases hfault
  | false =>
    rw [hrefuses.offBoard hover fun hboard => hs hboard.spellable] at hfault
    cases hfault

/-- In any game whatever, a move on a square that the history does not name is made only
if all laws hold, and no broken law passes it.  The moves that can not be made are refused
exactly if their squares can be spelled, and end in a fault otherwise. -/
theorem fresh_move_detects (hfresh : s ∉ g.history) :
    g.Detects s ∧ (g.Refuses s ↔ s.Spellable) ∧
      (¬ s.Spellable → g.play s = .error (.fault .overflow)) := by
  refine ⟨⟨exists_play_iff hfresh, play_of_not_consistent hfresh⟩, ⟨fun hrefuses => ?_, ?_⟩,
    play_of_not_spellable g⟩
  · exact Decidable.byContradiction fun hs => not_refuses_of_not_spellable g hs hrefuses
  · exact refuses_of_spellable g

/-- The first move was made by one mark and stands on the board as the other's, whose turn
it has stayed. -/
def mismarked : Game :=
  { board := Board.empty.put ⟨0, 0⟩ (some .o)
    player := .x
    turn := 2
    history := [⟨0, 0⟩]
    outcome := .inProgress }

theorem mismarked_detected :
    (⟨2, 2⟩ : Square) ∉ mismarked.history ∧ ¬ mismarked.Consistent ∧
      mismarked.play ⟨2, 2⟩ = .error (.fault (.inconsistent ⟨2, 2⟩)) ∧ mismarked.Refuses ⟨2, 2⟩ := by
  have hfresh : (⟨2, 2⟩ : Square) ∉ mismarked.history := by decide
  have hbroken : ¬ mismarked.Consistent := by decide +kernel
  obtain ⟨hdetects, hrefuses, -⟩ := fresh_move_detects hfresh
  exact ⟨hfresh, hbroken, hdetects.caught rfl (by decide) hbroken, hrefuses.2 (by decide)⟩

/-- A move off the board is not refused if its column is the last word. -/
theorem not_refuses_mismarked_last_column :
    (⟨0, 18446744073709551615⟩ : Square) ∉ mismarked.history ∧
      mismarked.play ⟨0, 18446744073709551615⟩ = .error (.fault .overflow) ∧
      ¬ mismarked.Refuses ⟨0, 18446744073709551615⟩ :=
  have hs : ¬ (⟨0, 18446744073709551615⟩ : Square).Spellable := by decide
  ⟨by decide, play_of_not_spellable mismarked hs, not_refuses_of_not_spellable mismarked hs⟩

end Game
end Noughts
