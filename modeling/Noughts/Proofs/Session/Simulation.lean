import Noughts.Session

/-!
Hosts that answer alike.

A session knows its host by the answers to its questions and by nothing else.  Two
hosts are alike under a relation between their states (`Host.Alike`) if related
states answer alike and every call leaves related states.  Sessions that start
with the same game and related hosts then stay together through a whole run
(`Session.Together.run`): the same result, the same game and phase, and related
hosts again.

The calls compared are those that a session can make.  It offers the open squares
of a game, and it declines only what a token was refused for.
-/

namespace Noughts

variable {σ τ : Type}

/-- The calls of a session keep the relation, and questions are answered alike. -/
structure Host.Alike (a : Host σ) (b : Host τ) (R : σ → τ → Prop) : Prop where
  ask : ∀ v w (g : Game), R v w →
    (a.ask v g.openSquares).1 = (b.ask w g.openSquares).1 ∧
      R (a.ask v g.openSquares).2 (b.ask w g.openSquares).2
  display : ∀ v w g, R v w → R (a.display v g) (b.display w g)
  decline : ∀ v w (g : Game) token f, R v w →
    g.playToken token = .error (.refused (.flawed f)) →
      ∃ v' w', a.decline v (.flawed f) = .ok v' ∧ b.decline w (.flawed f) = .ok w' ∧ R v' w'

namespace Session

/-- Two sessions with the same game, in the same phase, on related hosts. -/
structure Together (R : σ → τ → Prop) (s : Session σ) (t : Session τ) : Prop where
  game : s.game = t.game
  phase : s.phase = t.phase
  world : R s.world t.world

namespace Together

variable {a : Host σ} {b : Host τ} {R : σ → τ → Prop} {s : Session σ} {t : Session τ}

theorem handle (h : s.Together R t) (hab : a.Alike b R) (token : String) :
    (s.handle a token).1 = (t.handle b token).1 ∧
      (s.handle a token).2.Together R (t.handle b token).2 := by
  obtain ⟨hgame, hphase, hworld⟩ := h
  unfold Session.handle
  rw [← hphase, ← hgame]
  cases hs : s.phase with
  | finished => exact ⟨rfl, hgame, hphase, hworld⟩
  | awaitingMove =>
    cases hplay : s.game.playToken token with
    | ok next => exact ⟨rfl, rfl, rfl, hab.display _ _ next hworld⟩
    | error e =>
      cases e with
      | fault f => exact ⟨rfl, hgame, hphase, hworld⟩
      | refused e =>
        cases e with
        | gameOver => exact ⟨rfl, hgame, hphase, hworld⟩
        | flawed f =>
          obtain ⟨v, w, hv, hw, hvw⟩ := hab.decline _ _ _ _ _ hworld hplay
          simp only [hv, hw]
          exact ⟨trivial, rfl, rfl, hvw⟩

theorem turn (h : s.Together R t) (hab : a.Alike b R) :
    (s.turn a).1 = (t.turn b).1 ∧ (s.turn a).2.Together R (t.turn b).2 := by
  obtain ⟨hgame, hphase, hworld⟩ := h
  obtain ⟨hanswer, hasked⟩ := hab.ask _ _ s.game hworld
  unfold Session.turn
  rw [← hgame]
  generalize a.ask s.world s.game.openSquares = answered at hanswer hasked ⊢
  generalize b.ask t.world s.game.openSquares = answered' at hanswer hasked ⊢
  obtain ⟨answer, v⟩ := answered
  obtain ⟨answer', w⟩ := answered'
  obtain rfl : answer = answer' := hanswer
  have hnext : ({ s with world := v } : Session σ).Together R
      { game := s.game, phase := t.phase, world := w } :=
    ⟨rfl, hphase, hasked⟩
  cases answer with
  | error e => exact ⟨rfl, hnext⟩
  | ok token => exact hnext.handle hab token

theorem takeTurns (h : s.Together R t) (hab : a.Alike b R) :
    (s.takeTurns a).1 = (t.takeTurns b).1 ∧
      (s.takeTurns a).2.Together R (t.takeTurns b).2 := by
  induction s using takeTurns.induct a generalizing t with
  | case1 s hphase =>
    rw [takeTurns_of_finished a hphase, takeTurns_of_finished b (h.phase ▸ hphase), h.game]
    exact ⟨rfl, h⟩
  | case2 s hphase e next hturn =>
    obtain ⟨hresult, hnext⟩ := h.turn hab
    rw [hturn] at hresult hnext
    have hturn' : t.turn b = (.error e, (t.turn b).2) := Prod.ext hresult.symm rfl
    rw [takeTurns_of_error hphase hturn, takeTurns_of_error (h.phase ▸ hphase) hturn']
    exact ⟨rfl, hnext⟩
  | case3 s hphase phase next hturn ih =>
    obtain ⟨hresult, hnext⟩ := h.turn hab
    rw [hturn] at hresult hnext
    have hturn' : t.turn b = (.ok phase, (t.turn b).2) := Prod.ext hresult.symm rfl
    rw [takeTurns_of_ok hphase hturn, takeTurns_of_ok (h.phase ▸ hphase) hturn']
    exact ih hnext

theorem run (h : s.Together R t) (hab : a.Alike b R) :
    (s.run a).1 = (t.run b).1 ∧ (s.run a).2.Together R (t.run b).2 := by
  have hshown : ({ s with world := a.display s.world s.game } : Session σ).Together R
      { t with world := b.display t.world t.game } :=
    ⟨h.game, h.phase, h.game ▸ hab.display _ _ _ h.world⟩
  exact hshown.takeTurns hab

end Together
end Session
end Noughts
