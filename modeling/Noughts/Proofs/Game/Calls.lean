import Noughts.Proofs.Game.Replay

/-!
Calls on games that keep the laws.

Games are values, so whoever holds some may go on from any of them and hold the
old ones still.  `Call.makeAll` makes calls in order and keeps every game that
comes of them.  If the games at the start keep the laws, then so do all that are
ever held, and the calls end in a fault only if one of them has to look up a
square that can not be spelled.
-/

namespace Noughts

/-- A call that may make another game.  The games held are numbered from zero,
and a number with no game behind it means the new game. -/
inductive Call where
  | play (number : Nat) (s : Square)
  | replay (moves : List Square)

namespace Call

def make (games : List Game) : Call → Except PlayError Game
  | play number s => (games.getD number .new).play s
  | replay moves => Game.ofMoves moves

/-- Makes calls in order.  A refusal leaves the games as they are, and a fault is
the end of everything. -/
def makeAll : List Game → List Call → Except Fault (List Game)
  | games, [] => .ok games
  | games, call :: rest =>
    match call.make games with
    | .ok next => makeAll (games ++ [next]) rest
    | .error (.refused _) => makeAll games rest
    | .error (.fault f) => .error f

/-- The squares that the call gets to look up can be spelled. -/
def Spellable : Call → Prop
  | play _ s => s.Spellable
  | replay moves => ∀ i s e, Moves.FirstIllegal moves i s e → s.Spellable

/-- What a move should come to in a game that keeps the laws. -/
def StepLaw (g : Game) (s : Square) : Prop :=
  (∃ e, g.play s = .error (.refused e)) ∨ ∃ next, g.play s = .ok next ∧ next.Consistent

/-- What calls should come to in games that keep the laws. -/
def RunLaw (games : List Game) (calls : List Call) : Prop :=
  ∃ held, makeAll games calls = .ok held ∧ ∀ g ∈ held, g.Consistent

theorem not_stepLaw_of_fault {g : Game} {s : Square} {f : Fault}
    (h : g.play s = .error (.fault f)) : ¬ StepLaw g s := by
  rintro (⟨e, he⟩ | ⟨next, hnext, -⟩)
  · rw [h] at he
    cases he
  · rw [h] at hnext
    cases hnext

theorem stepLaw_iff_spellable {g : Game} (hg : g.Consistent) {s : Square} :
    StepLaw g s ↔ s.Spellable := by
  refine ⟨fun hlaw => ?_, Game.play_of_spellable hg⟩
  refine Decidable.byContradiction fun hs => ?_
  exact not_stepLaw_of_fault (Game.play_of_not_spellable g hs) hlaw

theorem spellable_replay {moves : List Square} (h : ∀ s ∈ moves, s.Spellable) :
    (replay moves).Spellable :=
  fun _ s _ hfirst => h s (List.mem_of_getElem? hfirst.move)

theorem consistent_getD {games : List Game} (h : ∀ g ∈ games, g.Consistent) (number : Nat) :
    (games.getD number .new).Consistent := by
  rw [List.getD_eq_getElem?_getD]
  cases hg : games[number]? with
  | none => exact Game.consistent_new
  | some g => exact h g (List.mem_of_getElem? hg)

theorem make_of_spellable {games : List Game} (h : ∀ g ∈ games, g.Consistent) {call : Call}
    (hcall : call.Spellable) :
    (∃ e, call.make games = .error (.refused e)) ∨
      ∃ next, call.make games = .ok next ∧ next.Consistent := by
  cases call with
  | play number s => exact Game.play_of_spellable (consistent_getD h number) hcall
  | replay moves =>
    by_cases hlegal : Moves.Legal moves
    · obtain ⟨g, hg, hp⟩ := Game.ofMoves_of_legal hlegal
      exact .inr ⟨g, hg, hp.consistent⟩
    · obtain ⟨i, s, e, hfirst⟩ := Moves.exists_firstIllegal hlegal
      refine .inl ⟨e, ?_⟩
      show Game.ofMoves moves = _
      rw [Game.ofMoves_of_firstIllegal hfirst, if_pos (hcall i s e hfirst)]

theorem make_of_not_spellable (games : List Game) {call : Call} (hcall : ¬ call.Spellable) :
    call.make games = .error (.fault .overflow) := by
  cases call with
  | play number s => exact Game.play_of_not_spellable _ hcall
  | replay moves =>
    simp only [Spellable, Classical.not_forall] at hcall
    obtain ⟨i, s, e, hfirst, hs⟩ := hcall
    show Game.ofMoves moves = _
    rw [Game.ofMoves_of_firstIllegal hfirst, if_neg hs]

theorem makeAll_cons_of_spellable {games : List Game} (h : ∀ g ∈ games, g.Consistent)
    {call : Call} (hcall : call.Spellable) (rest : List Call) :
    ∃ held, (∀ g ∈ held, g.Consistent) ∧ makeAll games (call :: rest) = makeAll held rest := by
  rcases make_of_spellable h hcall with ⟨e, he⟩ | ⟨next, hnext, hc⟩
  · exact ⟨games, h, by simp only [makeAll, he]⟩
  · refine ⟨games ++ [next], fun g hg => ?_, by simp only [makeAll, hnext]⟩
    rcases List.mem_append.1 hg with hg | hg
    · exact h g hg
    · exact List.mem_singleton.1 hg ▸ hc

theorem runLaw_of_spellable {games : List Game} (h : ∀ g ∈ games, g.Consistent)
    {calls : List Call} (hcalls : ∀ call ∈ calls, call.Spellable) : RunLaw games calls := by
  induction calls generalizing games with
  | nil => exact ⟨games, rfl, h⟩
  | cons call rest ih =>
    obtain ⟨hcall, hrest⟩ := List.forall_mem_cons.1 hcalls
    obtain ⟨held, hheld, hmake⟩ := makeAll_cons_of_spellable h hcall rest
    rw [RunLaw, hmake]
    exact ih hheld hrest

theorem makeAll_of_not_spellable {games : List Game} (h : ∀ g ∈ games, g.Consistent)
    {calls : List Call} (hcalls : ¬ ∀ call ∈ calls, call.Spellable) :
    makeAll games calls = .error .overflow := by
  -- Up to the first call that can not be spelled all goes well, and that one is the end.
  induction calls generalizing games with
  | nil => exact absurd nofun hcalls
  | cons call rest ih =>
    by_cases hcall : call.Spellable
    · obtain ⟨held, hheld, hmake⟩ := makeAll_cons_of_spellable h hcall rest
      have hrest : ¬ ∀ call ∈ rest, call.Spellable := fun hrest =>
        hcalls (List.forall_mem_cons.2 ⟨hcall, hrest⟩)
      rw [hmake]
      exact ih hheld hrest
    · simp only [makeAll, make_of_not_spellable games hcall]

/-- In games that keep the laws the turn number has a successor, no move ends in a
broken law, and a move keeps its law exactly if its square can be spelled.  Calls
of any number keep theirs exactly if all of them can be spelled, and end in a
fault otherwise. -/
theorem laws_iff_spellable {games : List Game} (h : ∀ g ∈ games, g.Consistent) :
    (∀ g ∈ games, g.turn.toNat + 1 < UInt64.size ∧
      ∀ s, (∀ t, g.play s ≠ .error (.fault (.inconsistent t))) ∧
        (StepLaw g s ↔ s.Spellable)) ∧
    ∀ calls, (RunLaw games calls ↔ ∀ call ∈ calls, call.Spellable) ∧
      ((¬ ∀ call ∈ calls, call.Spellable) → makeAll games calls = .error .overflow) := by
  refine ⟨fun g hg => ⟨(h g hg).turn_lt, fun s => ⟨?_, stepLaw_iff_spellable (h g hg)⟩⟩,
    fun calls => ⟨⟨?_, runLaw_of_spellable h⟩, makeAll_of_not_spellable h⟩⟩
  · exact Game.play_ne_inconsistent (h g hg) s
  · intro ⟨held, hheld, _⟩
    refine Classical.byContradiction fun hcalls => ?_
    rw [makeAll_of_not_spellable h hcalls] at hheld
    cases hheld

/-- A game that keeps the laws although no moves lead to it: its history names a
square twice, and the mark that is missing from it stands where nobody moved. -/
def strayGame : Game :=
  { board := ((Board.empty.put ⟨0, 0⟩ (some .x)).put ⟨1, 1⟩ (some .o)).put ⟨2, 2⟩ (some .x)
    player := .o
    turn := 4
    history := [⟨0, 0⟩, ⟨1, 1⟩, ⟨0, 0⟩]
    outcome := .inProgress }

theorem laws_of_strayGame :
    (∀ g ∈ [strayGame], g.Consistent) ∧ StepLaw strayGame ⟨2, 2⟩ ∧
      RunLaw [strayGame] [.play 0 ⟨0, 1⟩, .replay [⟨0, 0⟩, ⟨3, 0⟩], .play 0 ⟨0, 2⟩,
        .play 2 ⟨5, 7⟩, .play 9 ⟨0, 0⟩] := by
  have hkept : ∀ g ∈ [strayGame], g.Consistent := by decide +kernel
  obtain ⟨hstep, hrun⟩ := laws_iff_spellable hkept
  refine ⟨hkept, ((hstep strayGame (by simp)).2 ⟨2, 2⟩).2.2 (by decide), (hrun _).1.2 ?_⟩
  have hmoves : (replay [⟨0, 0⟩, ⟨3, 0⟩]).Spellable := spellable_replay (by decide)
  simp only [List.forall_mem_cons, List.not_mem_nil, false_implies, implies_true, and_true]
  exact ⟨(by decide : Square.Spellable ⟨0, 1⟩), hmoves, (by decide : Square.Spellable ⟨0, 2⟩),
    (by decide : Square.Spellable ⟨5, 7⟩), (by decide : Square.Spellable ⟨0, 0⟩)⟩

theorem not_stepLaw_last_column :
    Game.new.Consistent ∧ ¬ StepLaw .new ⟨0, 18446744073709551615⟩ := by
  have hfault : Game.new.play ⟨0, 18446744073709551615⟩ = .error (.fault .overflow) := by
    decide +kernel
  exact ⟨Game.consistent_new, not_stepLaw_of_fault hfault⟩

end Call
end Noughts
