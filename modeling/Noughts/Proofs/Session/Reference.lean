import Noughts.Proofs.Game.Standing
import Noughts.Session.Script

/-!
A session follows its tokens.

`Game.follow` is all that a token means: it moves the game on if it names an open
square, and otherwise nothing happens.  A session does the same, token by token
(`handle_script`), as long as its phase and its game agree and the game was made
by moves (`Session.Sound`).  A run over a script therefore folds `Game.follow`
over the tokens up to the first item that decides it (`run_follows_tokens`), and
calls its host as the turns of those tokens say (`takeTurns_recounts`).
-/

namespace Noughts

/-- One token of the reference game. -/
def Game.follow (g : Game) (token : String) : Game :=
  match Square.ofToken token with
  | .ok s => if s ∈ g.openSquares then g.successor s else g
  | .error _ => g

def Game.followAll (g : Game) (tokens : List String) : Game :=
  tokens.foldl Game.follow g

/-- No token but the last ends the game. -/
def Game.Undecided (g : Game) (tokens : List String) : Prop :=
  ∀ n < tokens.length, (g.followAll (tokens.take n)).isOver = false

/-- What the host is told about a token. -/
def Game.reply (g : Game) (token : String) : Event :=
  match Square.ofToken token with
  | .ok s =>
    if s ∈ g.openSquares then .displayed (g.successor s)
    else .declined (.flawed (.occupied s))
  | .error e => .declined (.flawed (.unreadable e))

/-- The tokens, each with the game that it is a move in. -/
def Game.turns (g : Game) : List String → List (Game × String)
  | [] => []
  | token :: rest => (g, token) :: (g.follow token).turns rest

/-- The calls of the turns: for each the question, and what comes of the token. -/
def Game.exchanges (g : Game) (tokens : List String) : List Event :=
  (g.turns tokens).flatMap fun turn => [.asked turn.1.openSquares, turn.1.reply turn.2]

@[simp] theorem Game.exchanges_nil (g : Game) : g.exchanges [] = [] := rfl

@[simp] theorem Game.exchanges_cons (g : Game) (token : String) (rest : List String) :
    g.exchanges (token :: rest) =
      .asked g.openSquares :: g.reply token :: (g.follow token).exchanges rest := rfl

theorem Game.undecided_cons {g : Game} (h : g.isOver = false) {token : String}
    {tokens : List String} (ht : (g.follow token).Undecided tokens) :
    g.Undecided (token :: tokens) := by
  intro n hn
  cases n with
  | zero => exact h
  | succ n => exact ht n (Nat.lt_of_succ_lt_succ hn)

theorem Game.played_follow {g : Game} (hp : g.Played g.history) (h : g.isOver = false)
    (token : String) : (g.follow token).Played (g.follow token).history := by
  unfold Game.follow
  split
  · rename_i s _
    by_cases hs : s ∈ g.openSquares
    · rw [if_pos hs]
      exact (hp.play_of_mem_openSquares h hs).2
    · rw [if_neg hs]
      exact hp
  · exact hp

theorem Game.playToken_of_played {g : Game} (hp : g.Played g.history) (h : g.isOver = false)
    (token : String) :
    g.playToken token =
      match g.reply token with
      | .declined e => .error (.refused e)
      | _ => .ok (g.follow token) := by
  unfold Game.playToken Game.reply Game.follow
  cases ht : Square.ofToken token with
  | error e => rfl
  | ok s =>
    by_cases hs : s ∈ g.openSquares
    · simp only [if_pos hs, (hp.play_of_mem_openSquares h hs).1]
    · -- A token names a square of the board, so only a mark on it can be in the way.
      have hboard := Square.onBoard_of_ofToken ht
      have hplay : g.play s = .error (.refused (.flawed (.occupied s))) := by
        rw [play_of_consistent hp.consistent]
        simp [hboard.spellable, h, hboard, hs]
      simp only [if_neg hs, hplay]

namespace Session

variable {σ : Type}

/-- The game was made by the moves it records, and the phase says whether it is
over. -/
structure Sound (s : Session σ) : Prop where
  played : s.game.Played s.game.history
  phase : s.phase = if s.game.isOver then .finished else .awaitingMove

theorem sound_start (world : σ) : (start world).Sound where
  played := Game.played_new
  phase := rfl

theorem Sound.phase_of_unfinished {s : Session σ} (hs : s.Sound) (h : s.game.isOver = false) :
    s.phase = .awaitingMove := by
  rw [hs.phase, h]
  rfl

theorem Sound.phase_of_isOver {s : Session σ} (hs : s.Sound) (h : s.game.isOver = true) :
    s.phase = .finished := by
  rw [hs.phase, h]
  rfl

theorem handle_script {s : Session Script} (hs : s.Sound) (h : s.game.isOver = false)
    (token : String) :
    s.handle Script.host token =
      let next := s.game.follow token
      let phase := if next.isOver then .finished else .awaitingMove
      (.ok phase, { game := next, phase, world := s.world.note (s.game.reply token) }) := by
  unfold handle
  rw [hs.phase_of_unfinished h]
  simp only [Game.playToken_of_played hs.played h]
  unfold Game.reply Game.follow
  cases ht : Square.ofToken token with
  | error e => simp [Script.host, h]
  | ok sq =>
    by_cases hsq : sq ∈ s.game.openSquares
    · simp [hsq, Script.host]
    · simp [hsq, Script.host, h]

theorem sound_handle_script {s : Session Script} (hs : s.Sound) (h : s.game.isOver = false)
    (token : String) : (s.handle Script.host token).2.Sound := by
  rw [handle_script hs h]
  exact ⟨Game.played_follow hs.played h token, rfl⟩

/-- The session once it has asked, with `rest` left of the script. -/
def asked (s : Session Script) (rest : List (Except InputError String)) : Session Script :=
  { s with world := { items := rest, log := s.world.log ++ [.asked s.game.openSquares] } }

theorem sound_asked {s : Session Script} (hs : s.Sound) (rest : List (Except InputError String)) :
    (s.asked rest).Sound :=
  ⟨hs.played, hs.phase⟩

theorem turn_of_nil {s : Session Script} (h : s.world.items = []) :
    s.turn Script.host = (.error (.input .closed), s.asked []) := by
  simp only [turn, Script.host, Script.ask, h, asked]

theorem turn_of_failure {s : Session Script} {e : InputError}
    {rest : List (Except InputError String)} (h : s.world.items = .error e :: rest) :
    s.turn Script.host = (.error (.input e), s.asked rest) := by
  simp only [turn, Script.host, Script.ask, h, asked]
  rfl

theorem turn_of_token {s : Session Script} {token : String}
    {rest : List (Except InputError String)} (h : s.world.items = .ok token :: rest) :
    s.turn Script.host = (s.asked rest).handle Script.host token := by
  simp only [turn, Script.host, Script.ask, h, asked]
  rfl

/-- How a run that starts with a game and some items of a script ends.  It has
taken the tokens up to the one that ends the game, or up to the first failure, and
the end of the script is a failure too. -/
structure Follows (g : Game) (items : List (Except InputError String))
    (r : Except SessionError Outcome × Session Script) (tokens : List String) : Prop where
  undecided : g.Undecided tokens
  game : r.2.game = g.followAll tokens
  ending :
    (r.2.game.isOver = true ∧ r.1 = .ok r.2.game.outcome ∧ r.2.phase = .finished ∧
      items = tokens.map .ok ++ r.2.world.items) ∨
    (r.2.game.isOver = false ∧ r.2.phase = .awaitingMove ∧ ∃ e, r.1 = .error (.input e) ∧
      (items = tokens.map .ok ++ .error e :: r.2.world.items ∨
        e = .closed ∧ items = tokens.map .ok ∧ r.2.world.items = []))

theorem follows_cons {g : Game} {items : List (Except InputError String)} {token : String}
    {tokens : List String} {r : Except SessionError Outcome × Session Script}
    (h : g.isOver = false) (hr : Follows (g.follow token) items r tokens) :
    Follows g (.ok token :: items) r (token :: tokens) where
  undecided := Game.undecided_cons h hr.undecided
  game := hr.game
  ending := by
    rcases hr.ending with ⟨hover, hok, hphase, hitems⟩ | ⟨hover, hphase, e, he, hitems⟩
    · exact .inl ⟨hover, hok, hphase, by rw [hitems]; rfl⟩
    · refine .inr ⟨hover, hphase, e, he, ?_⟩
      rcases hitems with hitems | ⟨hclosed, hitems, hnil⟩
      · exact .inl (by rw [hitems]; rfl)
      · exact .inr ⟨hclosed, by rw [hitems]; rfl, hnil⟩

/-- The calls of a run after its turns.  If the game is not over it has asked once
more, for the item that failed. -/
def lastCalls (r : Except SessionError Outcome × Session Script) : List Event :=
  if r.2.game.isOver then [] else [.asked r.2.game.openSquares]

theorem lastCalls_cases (r : Except SessionError Outcome × Session Script) :
    lastCalls r = [] ∧ r.2.game.isOver = true ∨
      lastCalls r = [.asked r.2.game.openSquares] ∧ r.2.game.isOver = false := by
  unfold lastCalls
  cases r.2.game.isOver <;> simp

/-- What a run that starts with `s` leaves behind: it follows the tokens it takes,
and the calls it makes are those of their turns. -/
structure Recounts (s : Session Script) (r : Except SessionError Outcome × Session Script)
    (tokens : List String) : Prop where
  follows : Follows s.game s.world.items r tokens
  log : r.2.world.log = s.world.log ++ s.game.exchanges tokens ++ lastCalls r

theorem recounts_of_isOver {s : Session Script} (hs : s.Sound) (h : s.game.isOver = true) :
    Recounts s (s.takeTurns Script.host) [] := by
  have hphase := hs.phase_of_isOver h
  rw [takeTurns_of_finished _ hphase]
  exact ⟨⟨nofun, rfl, .inl ⟨h, rfl, hphase, rfl⟩⟩, by simp [lastCalls, h]⟩

theorem recounts_of_failure {s : Session Script} {e : InputError}
    {rest : List (Except InputError String)} (hs : s.Sound) (h : s.game.isOver = false)
    (hturn : s.turn Script.host = (.error (.input e), s.asked rest))
    (hitems : s.world.items = .error e :: rest ∨
      e = .closed ∧ s.world.items = [] ∧ rest = []) :
    Recounts s (s.takeTurns Script.host) [] := by
  have hphase := hs.phase_of_unfinished h
  rw [takeTurns_of_error hphase hturn]
  exact ⟨⟨nofun, rfl, .inr ⟨h, hphase, e, rfl, hitems⟩⟩, by simp [lastCalls, asked, h]⟩

theorem takeTurns_recounts {items : List (Except InputError String)} {s : Session Script}
    (hs : s.Sound) (hitems : s.world.items = items) :
    ∃ tokens, Recounts s (s.takeTurns Script.host) tokens := by
  -- Induction on what is left of the script: a token leaves a sound session with the
  -- rest before it, and anything else ends the run.
  induction items generalizing s with
  | nil =>
    cases hover : s.game.isOver with
    | true => exact ⟨[], recounts_of_isOver hs hover⟩
    | false =>
      have hturn := turn_of_nil hitems
      exact ⟨[], recounts_of_failure hs hover hturn (.inr ⟨rfl, hitems, rfl⟩)⟩
  | cons item rest ih =>
    cases hover : s.game.isOver with
    | true => exact ⟨[], recounts_of_isOver hs hover⟩
    | false =>
      cases item with
      | error e =>
        have hturn := turn_of_failure hitems
        exact ⟨[], recounts_of_failure hs hover hturn (.inl hitems)⟩
      | ok token =>
        have hphase := hs.phase_of_unfinished hover
        have hasked := sound_asked hs rest
        have hnext := sound_handle_script hasked hover token
        have hturn := turn_of_token hitems
        rw [handle_script hasked hover] at hnext hturn
        rw [takeTurns_of_ok hphase hturn]
        obtain ⟨tokens, hfollows, hlog⟩ := ih hnext rfl
        refine ⟨token :: tokens, ?_, ?_⟩
        · rw [hitems]
          exact follows_cons hover hfollows
        · rw [hlog]
          simp [lastCalls, Script.note, asked]

theorem takeTurns_follows {items : List (Except InputError String)} {s : Session Script}
    (hs : s.Sound) (hitems : s.world.items = items) :
    ∃ tokens, Follows s.game items (s.takeTurns Script.host) tokens := by
  obtain ⟨tokens, hrecounts⟩ := takeTurns_recounts hs hitems
  exact ⟨tokens, hitems ▸ hrecounts.follows⟩

/-- A run over any script is the reference game played with the tokens it takes,
which are those up to the first item that ends the game or fails. -/
theorem run_follows_tokens (items : List (Except InputError String)) :
    let r := (start (Script.ofItems items)).run Script.host
    (∃ tokens, Follows .new items r tokens) ∧
      (r.2.phase = .finished ↔ ∃ outcome, r.1 = .ok outcome) := by
  have hsound := sound_start (σ := Script) ⟨items, [.displayed .new]⟩
  obtain ⟨tokens, hfollows⟩ := takeTurns_follows hsound rfl
  refine ⟨⟨tokens, hfollows⟩, ?_⟩
  show (takeTurns Script.host (start ⟨items, [.displayed .new]⟩)).2.phase = .finished ↔ _
  rcases hfollows.ending with ⟨-, hok, hphase, -⟩ | ⟨-, hphase, e, he, -⟩
  · exact iff_of_true hphase ⟨_, hok⟩
  · refine iff_of_false (fun hfin => ?_) fun ⟨outcome, hok⟩ => ?_
    · rw [hphase] at hfin
      cases hfin
    · exact nomatch he.symm.trans hok

end Session
end Noughts
