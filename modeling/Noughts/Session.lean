import Noughts.Game.Play

/-!
A session: one game played over a conversation with the players.

What a session needs of its surroundings is a `Host`, which asks for tokens and
shows what happened.  A host acts on a state of its own, so a session is a pure
function of the host's first state, and the host has to say how many tokens it
can still hand out.  That number is what ends the conversation.

`Session.handle` handles one token and `Session.run` plays until the game is over
or no token comes.
-/

namespace Noughts

/-- Why no token could be had. -/
inductive InputError where
  | closed
  | failed (reason : String)
deriving DecidableEq, Repr

/-- Why a session stops before its game ends, or takes no further token. -/
inductive SessionError where
  | input (e : InputError)
  | logic (e : Refusal)
  | fault (f : Fault)
deriving DecidableEq, Repr

def InputError.report : InputError → Report
  | closed => .ofMessage "Input closed before the game finished"
  | failed reason => .wrap "Failed to read input: " (.ofMessage reason)

/-- What is said about the end of a session.  A fault has no report. -/
def SessionError.report : SessionError → Except Fault Report
  | input e => .ok (.wrap "" e.report)
  | logic e => do return .wrap "Controller logic error: " (← e.report)
  | fault f => .error f

inductive Phase where
  | awaitingMove
  | finished
deriving DecidableEq, Repr

def Phase.text : Phase → String
  | awaitingMove => "awaiting move"
  | finished => "game over"

/-- The surroundings of a session.  `ask` offers squares and returns a token,
`display` shows a game and `decline` tells why a move was refused, if that can be
told.  Every token uses up some of the supply and nothing restores it. -/
structure Host (σ : Type) where
  ask : σ → List Square → Except SessionError String × σ
  display : σ → Game → σ
  decline : σ → Refusal → Except Fault σ
  supply : σ → Nat
  supply_ask : ∀ w squares token, (ask w squares).1 = .ok token →
    supply (ask w squares).2 < supply w
  supply_display : ∀ w g, supply (display w g) ≤ supply w
  supply_decline : ∀ w e next, decline w e = .ok next → supply next ≤ supply w

/-- A game under way, with the state of the host.  The phase is kept beside the
game and changes with it. -/
structure Session (σ : Type) where
  game : Game
  phase : Phase
  world : σ

namespace Session

variable {σ : Type}

def start (world : σ) : Session σ :=
  { game := .new, phase := .awaitingMove, world }

/-- Handles one token.  An accepted move is displayed, a refused one is declined
and leaves the game as it was.  Once the game is over every token is an error and
the host hears nothing of it. -/
def handle (host : Host σ) (s : Session σ) (token : String) :
    Except SessionError Phase × Session σ :=
  match s.phase with
  | .finished => (.error (.logic .gameOver), s)
  | .awaitingMove =>
    match s.game.playToken token with
    | .ok next =>
      let phase := if next.isOver then .finished else .awaitingMove
      (.ok phase, { game := next, phase, world := host.display s.world next })
    | .error (.refused (.flawed f)) =>
      match host.decline s.world (.flawed f) with
      | .ok world => (.ok .awaitingMove, { s with world })
      | .error f => (.error (.fault f), s)
    | .error (.refused .gameOver) => (.error (.logic .gameOver), s)
    | .error (.fault f) => (.error (.fault f), s)

def turn (host : Host σ) (s : Session σ) : Except SessionError Phase × Session σ :=
  match host.ask s.world s.game.openSquares with
  | (.error e, world) => (.error e, { s with world })
  | (.ok token, world) => handle host { s with world } token

theorem supply_handle (host : Host σ) (s : Session σ) (token : String) :
    host.supply (s.handle host token).2.world ≤ host.supply s.world := by
  unfold handle
  split
  · exact Nat.le_refl _
  · split
    · exact host.supply_display _ _
    · split
      · rename_i h
        exact host.supply_decline _ _ _ h
      · exact Nat.le_refl _
    · exact Nat.le_refl _
    · exact Nat.le_refl _

/-- A turn that does not fail has used up some of the supply. -/
theorem supply_turn {host : Host σ} {s next : Session σ} {phase : Phase}
    (h : s.turn host = (.ok phase, next)) : host.supply next.world < host.supply s.world := by
  unfold turn at h
  split at h
  · simp at h
  · rename_i token world hask
    have hlt := host.supply_ask s.world s.game.openSquares token (by rw [hask])
    have hle := supply_handle host { s with world } token
    rw [hask] at hlt
    rw [h] at hle
    exact Nat.lt_of_le_of_lt hle hlt

/-- Takes turns until the game is over or a turn fails. -/
def takeTurns (host : Host σ) (s : Session σ) : Except SessionError Outcome × Session σ :=
  match s.phase with
  | .finished => (.ok s.game.outcome, s)
  | .awaitingMove =>
    match _h : s.turn host with
    | (.error e, next) => (.error e, next)
    | (.ok _, next) => next.takeTurns host
termination_by host.supply s.world
decreasing_by exact supply_turn _h

theorem takeTurns_of_finished (host : Host σ) {s : Session σ} (h : s.phase = .finished) :
    s.takeTurns host = (.ok s.game.outcome, s) := by
  rw [takeTurns, h]

theorem takeTurns_of_error {host : Host σ} {s next : Session σ} {e : SessionError}
    (h : s.phase = .awaitingMove) (ht : s.turn host = (.error e, next)) :
    s.takeTurns host = (.error e, next) := by
  rw [takeTurns, h]
  simp only
  split
  · rename_i heq
    rw [ht] at heq
    cases heq
    rfl
  · rename_i heq
    rw [ht] at heq
    cases heq

theorem takeTurns_of_ok {host : Host σ} {s next : Session σ} {phase : Phase}
    (h : s.phase = .awaitingMove) (ht : s.turn host = (.ok phase, next)) :
    s.takeTurns host = next.takeTurns host := by
  rw [takeTurns, h]
  simp only
  split
  · rename_i heq
    rw [ht] at heq
    cases heq
  · rename_i heq
    rw [ht] at heq
    cases heq
    rfl

def run (host : Host σ) (s : Session σ) : Except SessionError Outcome × Session σ :=
  { s with world := host.display s.world s.game }.takeTurns host

end Session
end Noughts
