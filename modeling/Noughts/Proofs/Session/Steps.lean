import Noughts.Proofs.Session.Reference

/-!
Steps of a session in any order.

Whoever holds a session can hand it a token or let it run, as often and in
whatever order they like, and go on after a run that failed.  `Session.Lawful` is
what holds between any two steps: phase and outcome agree, the game is the one
that its own history replays to, and it breaks no law.  Every step keeps it, on
any host (`Lawful.perform`), because every turn of a run does.

So the answer that the game is over never comes from a move while the phase
awaits one (`Lawful.playToken_ne_gameOver`), neither in a step nor in the middle
of a run (`Hands`).  Once the phase is finished no step changes the game any more
(`performAll_of_finished`).
-/

namespace Noughts

theorem Game.play_of_playToken {g next : Game} {token : String}
    (h : g.playToken token = .ok next) : ∃ s, g.play s = .ok next := by
  unfold playToken at h
  cases ht : Square.ofToken token with
  | error e =>
    rw [ht] at h
    cases h
  | ok s =>
    rw [ht] at h
    exact ⟨s, h⟩

/-- The script after some more calls that took nothing from it. -/
def Script.noteAll (s : Script) (events : List Event) : Script :=
  { s with log := s.log ++ events }

namespace Session

/-- What the holder of a session can do with it. -/
inductive Step where
  | submit (token : String)
  | run
deriving DecidableEq, Repr

variable {σ : Type}

def perform (host : Host σ) (s : Session σ) : Step → Session σ
  | .submit token => (s.handle host token).2
  | .run => (s.run host).2

def performAll (host : Host σ) (s : Session σ) (steps : List Step) : Session σ :=
  steps.foldl (perform host) s

@[simp] theorem performAll_nil (host : Host σ) (s : Session σ) : s.performAll host [] = s := rfl

@[simp] theorem performAll_cons (host : Host σ) (s : Session σ) (step : Step) (rest : List Step) :
    s.performAll host (step :: rest) = (s.perform host step).performAll host rest := rfl

/-- A run that has come to `s` hands `token` over, now or later, and the session
is `t` when it does. -/
inductive Hands (host : Host σ) : Session σ → String → Session σ → Prop
  | now {s : Session σ} {token : String} {world : σ} (hphase : s.phase = .awaitingMove)
      (hask : host.ask s.world s.game.openSquares = (.ok token, world)) :
      Hands host s token { s with world }
  | later {s next t : Session σ} {phase : Phase} {token : String}
      (hphase : s.phase = .awaitingMove) (hturn : s.turn host = (.ok phase, next))
      (hands : Hands host next token t) : Hands host s token t

/-- A step hands `token` over to be handled, with the session at `t`. -/
def Step.Hands (host : Host σ) (s : Session σ) : Step → String → Session σ → Prop
  | .submit token', token, t => token = token' ∧ t = s
  | .run, token, t => Session.Hands host { s with world := host.display s.world s.game } token t

/-- What holds of a session between its steps. -/
structure Lawful (s : Session σ) : Prop where
  phase : s.phase = .finished ↔ s.game.isOver = true
  replayed : Game.ofMoves s.game.history = .ok s.game
  audited : s.game.violations = []

theorem lawful_start (world : σ) : (start world).Lawful where
  phase := by simp [start, Game.new, Game.isOver, Outcome.isTerminal]
  replayed := rfl
  audited := Game.violations_eq_nil_iff.2 Game.consistent_new

namespace Lawful

variable {s : Session σ}

theorem isOver_eq_false (hs : s.Lawful) (h : s.phase = .awaitingMove) : s.game.isOver = false := by
  refine Bool.eq_false_iff.2 fun hover => ?_
  rw [hs.phase.2 hover] at h
  cases h

theorem sound (hs : s.Lawful) : s.Sound where
  played := Game.played_of_ofMoves hs.replayed
  phase := by
    cases hphase : s.phase with
    | finished => rw [hs.phase.1 hphase]; rfl
    | awaitingMove => rw [hs.isOver_eq_false hphase]; rfl

/-- The laws say nothing about the host. -/
theorem with_world (hs : s.Lawful) (world : σ) : ({ s with world } : Session σ).Lawful :=
  ⟨hs.phase, hs.replayed, hs.audited⟩

theorem of_play {next : Game} {sq : Square} (hs : s.Lawful) (hplay : s.game.play sq = .ok next)
    (world : σ) :
    ({ game := next, phase := if next.isOver then .finished else .awaitingMove, world } :
      Session σ).Lawful where
  phase := by cases next.isOver <;> simp
  replayed := Game.ofMoves_history_of_play hs.replayed hplay
  audited := Game.violations_eq_nil_iff.2 (Game.play_eq_ok_iff.1 hplay).2.2.2

theorem playToken_ne_gameOver (hs : s.Lawful) (h : s.phase = .awaitingMove) (token : String) :
    s.game.playToken token ≠ .error (.refused .gameOver) := by
  have hplay := Game.playToken_of_played hs.sound.played (hs.isOver_eq_false h) token
  rw [hplay]
  unfold Game.reply
  cases Square.ofToken token with
  | error e => simp
  | ok sq => by_cases hsq : sq ∈ s.game.openSquares <;> simp [hsq]

theorem handle (hs : s.Lawful) (host : Host σ) (token : String) :
    (s.handle host token).2.Lawful := by
  unfold Session.handle
  cases hphase : s.phase with
  | finished => exact hs
  | awaitingMove =>
    cases hplay : s.game.playToken token with
    | ok next =>
      obtain ⟨sq, hsq⟩ := Game.play_of_playToken hplay
      exact hs.of_play hsq _
    | error e =>
      -- Of all refusals only a declined one changes anything, and that is the host.
      cases e with
      | fault f => exact hs
      | refused e =>
        cases e with
        | gameOver => exact hs
        | flawed f =>
          cases hdecline : host.decline s.world (.flawed f) with
          | ok world => simpa only [hdecline, hphase] using hs.with_world world
          | error f => simpa only [hdecline] using hs

theorem turn (hs : s.Lawful) (host : Host σ) : (s.turn host).2.Lawful := by
  unfold Session.turn
  split
  · exact hs.with_world _
  · exact (hs.with_world _).handle host _

end Lawful

/-- What each turn keeps a run of turns keeps. -/
theorem takeTurns_keeps {host : Host σ} {P : Session σ → Prop}
    (hkeep : ∀ s, P s → P (s.turn host).2) {s : Session σ} (h : P s) :
    P (s.takeTurns host).2 := by
  induction s using takeTurns.induct host with
  | case1 s hphase =>
    rw [takeTurns_of_finished host hphase]
    exact h
  | case2 s hphase e next hturn =>
    have hnext := hkeep s h
    rw [takeTurns_of_error hphase hturn]
    rwa [hturn] at hnext
  | case3 s hphase phase next hturn ih =>
    have hnext := hkeep s h
    rw [takeTurns_of_ok hphase hturn]
    rw [hturn] at hnext
    exact ih hnext

namespace Lawful

variable {s : Session σ}

theorem run (hs : s.Lawful) (host : Host σ) : (s.run host).2.Lawful :=
  takeTurns_keeps (fun _ hs => hs.turn host) (hs.with_world _)

theorem perform (hs : s.Lawful) (host : Host σ) (step : Step) : (s.perform host step).Lawful := by
  cases step with
  | submit token => exact hs.handle host token
  | run => exact hs.run host

theorem performAll (hs : s.Lawful) (host : Host σ) (steps : List Step) :
    (s.performAll host steps).Lawful := by
  induction steps generalizing s with
  | nil => exact hs
  | cons step rest ih => exact ih (hs.perform host step)

theorem hands {host : Host σ} {t : Session σ} {token : String} (hs : s.Lawful)
    (hands : Session.Hands host s token t) : t.Lawful := by
  induction hands with
  | now _ _ => exact hs.with_world _
  | later _ hturn _ ih =>
    have hnext := hs.turn host
    rw [hturn] at hnext
    exact ih hnext

theorem step_hands {host : Host σ} {step : Step} {t : Session σ} {token : String} (hs : s.Lawful)
    (hands : step.Hands host s token t) : t.Lawful := by
  cases step with
  | submit token' =>
    obtain ⟨-, rfl⟩ := hands
    exact hs
  | run => exact (hs.with_world _).hands hands

end Lawful

/-! ## After the end -/

theorem handle_of_finished (host : Host σ) {s : Session σ} (h : s.phase = .finished)
    (token : String) : s.handle host token = (.error (.logic .gameOver), s) := by
  unfold handle
  rw [h]

theorem run_of_finished (host : Host σ) {s : Session σ} (h : s.phase = .finished) :
    s.run host = (.ok s.game.outcome, { s with world := host.display s.world s.game }) :=
  takeTurns_of_finished host h

/-- The session once it has shown its game `n` times more. -/
def shown (s : Session Script) (n : Nat) : Session Script :=
  { s with world := s.world.noteAll (List.replicate n (.displayed s.game)) }

theorem run_script_of_finished {s : Session Script} (h : s.phase = .finished) :
    s.run Script.host = (.ok s.game.outcome, s.shown 1) :=
  run_of_finished Script.host h

theorem shown_shown (s : Session Script) (n : Nat) : (s.shown 1).shown n = s.shown (n + 1) := by
  simp [shown, Script.noteAll, List.replicate_succ]

/-- A finished session only shows its game, once for every run. -/
theorem performAll_of_finished {s : Session Script} (h : s.phase = .finished)
    (steps : List Step) : s.performAll Script.host steps = s.shown (steps.count .run) := by
  induction steps generalizing s with
  | nil => simp [shown, Script.noteAll]
  | cons step rest ih =>
    cases step with
    | submit token =>
      have hstep : s.perform Script.host (.submit token) = s := by
        rw [perform, handle_of_finished Script.host h]
      rw [performAll_cons, hstep, ih h, List.count_cons_of_ne (by simp)]
    | run =>
      have hstep : s.perform Script.host .run = s.shown 1 := by
        rw [perform, run_script_of_finished h]
      have hfin : (s.shown 1).phase = .finished := h
      rw [performAll_cons, hstep, ih hfin, shown_shown, List.count_cons_self]

/-- After any steps over any script the session is lawful, and no move that a step
or a turn of a run makes is refused because the game is over.  Once the phase is
finished a token changes nothing at all, and a run shows the game and asks for no
token. -/
theorem steps_lawful (items : List (Except InputError String)) (steps : List Step) :
    let s := (start (Script.ofItems items)).performAll Script.host steps
    s.Lawful ∧
      (∀ step token t, Step.Hands Script.host s step token t → t.phase = .awaitingMove →
        t.game.playToken token ≠ .error (.refused .gameOver)) ∧
      (s.phase = .finished → ∀ later,
        let t := s.performAll Script.host later
        t = s.shown (later.count .run) ∧
          (∀ token, t.handle Script.host token = (.error (.logic .gameOver), t)) ∧
          t.run Script.host = (.ok s.game.outcome, t.shown 1)) := by
  intro s
  have hs : s.Lawful := (lawful_start _).performAll Script.host steps
  refine ⟨hs, fun step token t hands hphase => ?_, fun hfin later => ?_⟩
  · exact (hs.step_hands hands).playToken_ne_gameOver hphase token
  · intro t
    have ht : t = s.shown (later.count .run) := performAll_of_finished hfin later
    have hgame : t.game = s.game := by rw [ht]; rfl
    have htfin : t.phase = .finished := by rw [ht]; exact hfin
    refine ⟨ht, handle_of_finished Script.host htfin, ?_⟩
    rw [run_script_of_finished htfin, hgame]

end Session
end Noughts
