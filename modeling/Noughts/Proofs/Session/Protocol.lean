import Noughts.Proofs.Session.Steps

/-!
The calls of a run.

A run speaks to its host in a fixed order: it shows the game, and then asks and
tells what came of the token, turn by turn, until the game is over or an item
fails.  `Session.Protocol` says so of the calls of one run, together with what
follows from the order: nobody is asked about a game other than the one shown
last, each game shown is one claim ahead of the one before, every refused token
is declined once, and a game that is over is shown at the very end or not at all.

Every run keeps the protocol, whatever was done with the session before
(`run_protocol`).  The order itself is read off the turns in `Session.Recounts`.
What follows from it is proved of `Game.exchanges` by induction on the tokens,
and a turn enters each of these proofs through `Game.reply_cases` alone.
-/

namespace Noughts

/-! ## Calls -/

namespace Event

def shown? : Event → Option Game
  | displayed g => some g
  | _ => none

def isAsked : Event → Bool
  | asked _ => true
  | _ => false

def isDeclined : Event → Bool
  | declined _ => true
  | _ => false

/-- The games that some calls show, in order. -/
def shownIn (calls : List Event) : List Game :=
  calls.filterMap shown?

@[simp] theorem shownIn_nil : shownIn [] = [] := rfl

@[simp] theorem shownIn_displayed (g : Game) (calls : List Event) :
    shownIn (.displayed g :: calls) = g :: shownIn calls := rfl

@[simp] theorem shownIn_asked (offered : List Square) (calls : List Event) :
    shownIn (.asked offered :: calls) = shownIn calls := rfl

@[simp] theorem shownIn_declined (e : Refusal) (calls : List Event) :
    shownIn (.declined e :: calls) = shownIn calls := rfl

@[simp] theorem shownIn_append (before after : List Event) :
    shownIn (before ++ after) = shownIn before ++ shownIn after :=
  List.filterMap_append

/-- How often some calls ask. -/
def asksIn (calls : List Event) : Nat :=
  calls.countP isAsked

@[simp] theorem asksIn_asked (offered : List Square) (calls : List Event) :
    asksIn (.asked offered :: calls) = asksIn calls + 1 :=
  List.countP_cons_of_pos rfl

@[simp] theorem asksIn_displayed (g : Game) (calls : List Event) :
    asksIn (.displayed g :: calls) = asksIn calls :=
  List.countP_cons_of_neg Bool.false_ne_true

@[simp] theorem asksIn_declined (e : Refusal) (calls : List Event) :
    asksIn (.declined e :: calls) = asksIn calls :=
  List.countP_cons_of_neg Bool.false_ne_true

/-- The last of the calls shows a game that is over, and no other call does. -/
def Conclude (calls : List Event) (g : Game) : Prop :=
  g.isOver = true ∧ ∃ before, calls = before ++ [.displayed g] ∧
    ∀ shown ∈ shownIn before, shown.isOver = false

theorem Conclude.mem_shownIn {calls : List Event} {g : Game} (h : Conclude calls g) :
    g ∈ shownIn calls := by
  obtain ⟨-, before, rfl, -⟩ := h
  simp

end Event

namespace Game

/-- The squares offered are the open ones of the game, in reading order. -/
structure Offers (g : Game) (offered : List Square) : Prop where
  mem_iff : ∀ s, s ∈ offered ↔ s.OnBoard ∧ g.board.cell s = none
  ordered : offered.Pairwise Square.Before

theorem offers_openSquares (g : Game) : g.Offers g.openSquares where
  mem_iff _ := Board.mem_openSquares
  ordered := List.Pairwise.filter _ Square.pairwise_before_all

/-- The boards of the two games differ in one square, which the second game has
claimed for the mark that was to move. -/
def ClaimsOne (g next : Game) : Prop :=
  ∃ s, g.board.cell s = none ∧ next.board.cell s = some g.player ∧
    ∀ t, t ≠ s → next.board.cell t = g.board.cell t

theorem claimsOne_successor {g : Game} {s : Square} (hs : s ∈ g.openSquares) :
    g.ClaimsOne (g.successor s) := by
  obtain ⟨hboard, hnone⟩ := Board.mem_openSquares.1 hs
  refine ⟨s, hnone, ?_, fun t ht => ?_⟩
  · show (g.board.put s (some g.player)).cell s = some g.player
    rw [Board.cell_put, if_pos ⟨rfl, hboard⟩]
  · show (g.board.put s (some g.player)).cell t = g.board.cell t
    rw [Board.cell_put, if_neg fun h => ht h.1]

/-- A token is answered by the game after it, one claim ahead, or it is declined
and the game stays. -/
theorem reply_cases (g : Game) (token : String) :
    (g.reply token = .displayed (g.follow token) ∧ g.ClaimsOne (g.follow token)) ∨
      ∃ f, g.reply token = .declined (.flawed f) ∧ g.follow token = g := by
  unfold reply follow
  cases Square.ofToken token with
  | error e => exact .inr ⟨_, rfl, rfl⟩
  | ok s =>
    by_cases hs : s ∈ g.openSquares
    · left
      simp only [if_pos hs]
      exact ⟨trivial, claimsOne_successor hs⟩
    · right
      simp only [if_neg hs]
      exact ⟨_, rfl, trivial⟩

/-- What the game does with the token is what the host is told of it. -/
def Answered (turn : Game × String) : Prop :=
  (∃ next, turn.1.playToken turn.2 = .ok next ∧ turn.1.reply turn.2 = .displayed next) ∨
    ∃ f, turn.1.playToken turn.2 = .error (.refused (.flawed f)) ∧
      turn.1.reply turn.2 = .declined (.flawed f)

def refuses (turn : Game × String) : Bool :=
  !(turn.1.playToken turn.2).isOk

theorem answered_of_played {g : Game} (hp : g.Played g.history) (h : g.isOver = false)
    (token : String) : Answered (g, token) := by
  have hplay := playToken_of_played hp h token
  rcases g.reply_cases token with ⟨hreply, -⟩ | ⟨f, hreply, -⟩
  · rw [hreply] at hplay
    exact .inl ⟨_, hplay, hreply⟩
  · rw [hreply] at hplay
    exact .inr ⟨f, hplay, hreply⟩

theorem refuses_of_answered {turn : Game × String} (h : Answered turn) :
    refuses turn = (turn.1.reply turn.2).isDeclined := by
  rcases h with ⟨next, hplay, hreply⟩ | ⟨f, hplay, hreply⟩
  · rw [refuses, hplay, hreply]
    rfl
  · rw [refuses, hplay, hreply]
    rfl

/-! ## Turns -/

variable {g : Game} {token : String} {tokens : List String}

theorem Undecided.head (h : g.Undecided (token :: tokens)) : g.isOver = false :=
  h 0 (Nat.succ_pos _)

theorem Undecided.tail (h : g.Undecided (token :: tokens)) : (g.follow token).Undecided tokens :=
  fun n hn => h (n + 1) (Nat.succ_lt_succ hn)

theorem answered_of_mem_turns (hp : g.Played g.history) (h : g.Undecided tokens) :
    ∀ turn ∈ g.turns tokens, Answered turn := by
  induction tokens generalizing g with
  | nil => exact nofun
  | cons token rest ih =>
    refine List.forall_mem_cons.2 ⟨answered_of_played hp h.head token, ?_⟩
    exact ih (played_follow hp h.head token) h.tail

theorem countP_isDeclined_exchanges (h : ∀ turn ∈ g.turns tokens, Answered turn) :
    (g.exchanges tokens).countP Event.isDeclined = (g.turns tokens).countP refuses := by
  induction tokens generalizing g with
  | nil => rfl
  | cons token rest ih =>
    obtain ⟨hturn, hrest⟩ := List.forall_mem_cons.1 h
    have hasked : ¬ (Event.asked g.openSquares).isDeclined = true := Bool.false_ne_true
    rw [exchanges_cons, turns, List.countP_cons_of_neg hasked, List.countP_cons, List.countP_cons,
      ih hrest, refuses_of_answered hturn]

theorem isChain_shownIn_exchanges (g : Game) (tokens : List String) :
    (g :: Event.shownIn (g.exchanges tokens)).IsChain ClaimsOne := by
  induction tokens generalizing g with
  | nil => exact .singleton g
  | cons token rest ih =>
    have hrest := ih (g.follow token)
    rw [exchanges_cons, Event.shownIn_asked]
    rcases g.reply_cases token with ⟨hreply, hclaim⟩ | ⟨f, hreply, hstay⟩
    · rw [hreply, Event.shownIn_displayed]
      exact .cons_cons hclaim hrest
    · rw [hreply, Event.shownIn_declined]
      rwa [hstay] at hrest ⊢

/-- Where the calls ask, the game shown last is the one that the tokens so far have
led to, and its open squares are offered. -/
theorem shownIn_before_asked {last before after : List Event} {offered : List Square}
    (hlast : last = [] ∨ last = [.asked (g.followAll tokens).openSquares])
    (h : .displayed g :: (g.exchanges tokens ++ last) = before ++ .asked offered :: after) :
    (Event.shownIn before).getLast? =
        some (g.followAll (tokens.take (Event.asksIn before))) ∧
      offered = (g.followAll (tokens.take (Event.asksIn before))).openSquares := by
  -- Induction on the tokens.  A turn that is over leaves its game shown last, whether
  -- it is a new one or still the old one, so the rest is again calls after a display.
  induction tokens generalizing g before with
  | nil =>
    obtain ⟨rfl, hcons⟩ | ⟨before, rfl, htail⟩ := List.cons_eq_append_iff.1 h
    · cases hcons
    · rcases hlast with rfl | rfl
      · simp at htail
      · obtain ⟨rfl, hcons⟩ | ⟨before, rfl, htail⟩ := List.cons_eq_append_iff.1 htail
        · cases hcons
          exact ⟨rfl, rfl⟩
        · simp at htail
  | cons token rest ih =>
    obtain ⟨rfl, hcons⟩ | ⟨before, rfl, hturn⟩ := List.cons_eq_append_iff.1 h
    · cases hcons
    · rw [exchanges_cons, List.cons_append, List.cons_append] at hturn
      obtain ⟨rfl, hcons⟩ | ⟨before, rfl, hanswer⟩ := List.cons_eq_append_iff.1 hturn
      · cases hcons
        exact ⟨rfl, rfl⟩
      · obtain ⟨rfl, hcons⟩ | ⟨before, rfl, hcalls⟩ := List.cons_eq_append_iff.1 hanswer
        · rcases g.reply_cases token with ⟨hreply, -⟩ | ⟨f, hreply, -⟩
          · rw [hreply] at hcons
            cases hcons
          · rw [hreply] at hcons
            cases hcons
        · have hsplit : .displayed (g.follow token) :: ((g.follow token).exchanges rest ++ last) =
              (.displayed (g.follow token) :: before) ++ .asked offered :: after := by
            rw [hcalls]
            rfl
          have hrest := ih hlast hsplit
          rcases g.reply_cases token with ⟨hreply, -⟩ | ⟨f, hreply, hstay⟩
          · rw [hreply]
            simpa [followAll] using hrest
          · rw [hreply]
            simpa [followAll, hstay] using hrest

theorem isOver_eq_false_of_shown (h : g.Undecided tokens)
    (hend : (g.followAll tokens).isOver = false) :
    ∀ shown ∈ g :: Event.shownIn (g.exchanges tokens), shown.isOver = false := by
  induction tokens generalizing g with
  | nil => exact List.forall_mem_singleton.2 hend
  | cons token rest ih =>
    have hrest := ih h.tail hend
    refine List.forall_mem_cons.2 ⟨h.head, ?_⟩
    rw [exchanges_cons, Event.shownIn_asked]
    rcases g.reply_cases token with ⟨hreply, -⟩ | ⟨f, hreply, -⟩
    · rw [hreply]
      exact hrest
    · rw [hreply]
      exact (List.forall_mem_cons.1 hrest).2

theorem concludes_followAll (h : g.Undecided tokens) (hend : (g.followAll tokens).isOver = true) :
    Event.Conclude (.displayed g :: g.exchanges tokens) (g.followAll tokens) := by
  refine ⟨hend, ?_⟩
  induction tokens generalizing g with
  | nil => exact ⟨[], rfl, nofun⟩
  | cons token rest ih =>
    have hend : ((g.follow token).followAll rest).isOver = true := hend
    obtain ⟨before, hcalls, hbefore⟩ := ih h.tail hend
    have hhead := h.head
    rcases g.reply_cases token with ⟨hreply, -⟩ | ⟨f, hreply, hstay⟩
    · refine ⟨.displayed g :: .asked g.openSquares :: before, ?_, ?_⟩
      · rw [exchanges_cons, hreply, hcalls]
        rfl
      · exact List.forall_mem_cons.2 ⟨hhead, hbefore⟩
    · -- The token changed nothing, so a game that is over is still to come.
      rw [hstay] at hcalls hend
      obtain ⟨rfl, hcons⟩ | ⟨before, rfl, htail⟩ := List.cons_eq_append_iff.1 hcalls
      · have hsame : g.followAll rest = g := by
          simp only [List.cons.injEq, Event.displayed.injEq] at hcons
          exact hcons.1
        rw [hsame, hhead] at hend
        cases hend
      · refine ⟨.displayed g :: .asked g.openSquares :: .declined (.flawed f) :: before, ?_, ?_⟩
        · rw [exchanges_cons, hreply, hstay, htail]
          simp [followAll, hstay]
        · exact hbefore

end Game

namespace Session

/-- A token means what it means on any host. -/
theorem game_handle {σ : Type} (host : Host σ) {s : Session σ} (hs : s.Lawful)
    (h : s.phase = .awaitingMove) (token : String) :
    (s.handle host token).2.game = s.game.follow token := by
  have hplay := Game.playToken_of_played hs.sound.played (hs.isOver_eq_false h) token
  unfold handle
  simp only [h]
  rcases s.game.reply_cases token with ⟨hreply, -⟩ | ⟨f, hreply, hstay⟩
  · rw [hreply] at hplay
    simp only [hplay]
  · rw [hreply] at hplay
    simp only [hplay, hstay]
    cases hdecline : host.decline s.world (.flawed f) with
    | ok world => rfl
    | error f => rfl

/-- What the calls of one run are, and what holds of them because of it.  The run
starts with `s` and takes `tokens` off the script. -/
structure Protocol (s : Session Script) (r : Except SessionError Outcome × Session Script)
    (tokens : List String) (calls : List Event) : Prop where
  follows : Follows s.game s.world.items r tokens
  order : calls = .displayed s.game :: (s.game.exchanges tokens ++ lastCalls r)
  answered : ∀ turn ∈ s.game.turns tokens, Game.Answered turn
  fresh : ∀ before offered after, calls = before ++ .asked offered :: after →
    ∃ g, g = s.game.followAll (tokens.take (Event.asksIn before)) ∧
      (Event.shownIn before).getLast? = some g ∧ g.Offers offered
  oneClaim : (Event.shownIn calls).IsChain Game.ClaimsOne
  declines : calls.countP Event.isDeclined = (s.game.turns tokens).countP Game.refuses
  conclusion : (∃ outcome, r.1 = .ok outcome) ↔ ∃ g, Event.Conclude calls g
  unfinished : (∀ outcome, r.1 ≠ .ok outcome) → ∀ g ∈ Event.shownIn calls, g.isOver = false

@[simp] theorem shownIn_lastCalls (r : Except SessionError Outcome × Session Script) :
    Event.shownIn (lastCalls r) = [] := by
  rcases lastCalls_cases r with ⟨hlast, -⟩ | ⟨hlast, -⟩
  · rw [hlast, Event.shownIn_nil]
  · rw [hlast, Event.shownIn_asked, Event.shownIn_nil]

@[simp] theorem countP_isDeclined_lastCalls (r : Except SessionError Outcome × Session Script) :
    (lastCalls r).countP Event.isDeclined = 0 := by
  rcases lastCalls_cases r with ⟨hlast, -⟩ | ⟨hlast, -⟩
  · rw [hlast, List.countP_nil]
  · rw [hlast]
    rfl

namespace Follows

variable {g : Game} {items : List (Except InputError String)} {tokens : List String}
  {r : Except SessionError Outcome × Session Script}

theorem isOver_iff (h : Follows g items r tokens) :
    r.2.game.isOver = true ↔ ∃ outcome, r.1 = .ok outcome := by
  rcases h.ending with ⟨hover, hok, -⟩ | ⟨hover, -, e, he, -⟩
  · exact iff_of_true hover ⟨_, hok⟩
  · refine iff_of_false (by simp [hover]) fun ⟨outcome, hok⟩ => ?_
    rw [he] at hok
    cases hok

theorem conclude_of_isOver (h : Follows g items r tokens) (hover : r.2.game.isOver = true) :
    Event.Conclude (.displayed g :: (g.exchanges tokens ++ lastCalls r)) r.2.game := by
  have hend := hover
  rw [h.game] at hend ⊢
  rw [lastCalls, if_pos hover, List.append_nil]
  exact Game.concludes_followAll h.undecided hend

theorem unfinished_of_not_isOver (h : Follows g items r tokens)
    (hover : r.2.game.isOver = false) :
    ∀ shown ∈ Event.shownIn (.displayed g :: (g.exchanges tokens ++ lastCalls r)),
      shown.isOver = false := by
  have hend := hover
  rw [h.game] at hend
  have hshown := Game.isOver_eq_false_of_shown h.undecided hend
  simpa using hshown

theorem exists_conclude_iff (h : Follows g items r tokens) :
    (∃ outcome, r.1 = .ok outcome) ↔
      ∃ last, Event.Conclude (.displayed g :: (g.exchanges tokens ++ lastCalls r)) last := by
  rw [← h.isOver_iff]
  refine ⟨fun hover => ⟨_, h.conclude_of_isOver hover⟩, ?_⟩
  rintro ⟨last, hlast⟩
  -- The game that concludes the calls is over, and without an end none is shown.
  rw [← Bool.not_eq_false]
  intro hover
  have hfalse := h.unfinished_of_not_isOver hover last hlast.mem_shownIn
  rw [hlast.1] at hfalse
  cases hfalse

theorem offers_of_asked (h : Follows g items r tokens) {before after : List Event}
    {offered : List Square}
    (hsplit : .displayed g :: (g.exchanges tokens ++ lastCalls r) =
      before ++ .asked offered :: after) :
    ∃ shown, shown = g.followAll (tokens.take (Event.asksIn before)) ∧
      (Event.shownIn before).getLast? = some shown ∧ shown.Offers offered := by
  have hlast := lastCalls_cases r
  rw [h.game] at hlast
  obtain ⟨hshown, rfl⟩ := Game.shownIn_before_asked (hlast.imp And.left And.left) hsplit
  exact ⟨_, rfl, hshown, Game.offers_openSquares _⟩

/-- The protocol is in the turns: it takes no more than a game made by moves and the
tokens that the run follows. -/
theorem protocol {s : Session Script} (hp : s.game.Played s.game.history)
    (h : Follows s.game s.world.items r tokens) :
    Protocol s r tokens (.displayed s.game :: (s.game.exchanges tokens ++ lastCalls r)) := by
  have hanswered := Game.answered_of_mem_turns hp h.undecided
  have hchain := Game.isChain_shownIn_exchanges s.game tokens
  have hcount := Game.countP_isDeclined_exchanges hanswered
  refine ⟨h, rfl, hanswered, fun before offered after => h.offers_of_asked, ?_, ?_,
    h.exists_conclude_iff, fun hfail => h.unfinished_of_not_isOver ?_⟩
  · simpa using hchain
  · simpa [Event.isDeclined] using hcount
  · refine Bool.eq_false_iff.2 fun hover => ?_
    obtain ⟨outcome, hok⟩ := h.isOver_iff.1 hover
    exact hfail outcome hok

end Follows

/-- A run makes its calls by the protocol, over any script and after any steps. -/
theorem run_protocol (items : List (Except InputError String)) (steps : List Step) :
    let s := (start (Script.ofItems items)).performAll Script.host steps
    ∃ tokens calls, (s.run Script.host).2.world.log = s.world.log ++ calls ∧
      Protocol s (s.run Script.host) tokens calls := by
  intro s
  have hs : s.Lawful := (lawful_start _).performAll Script.host steps
  let s' : Session Script := { s with world := s.world.note (.displayed s.game) }
  have hs' : s'.Lawful := hs.with_world _
  have hrun : s.run Script.host = s'.takeTurns Script.host := rfl
  obtain ⟨tokens, hfollows, hlog⟩ := takeTurns_recounts hs'.sound rfl
  rw [← hrun] at hfollows hlog
  refine ⟨tokens, _, ?_, hfollows.protocol hs.sound.played⟩
  rw [hlog]
  simp [s', Script.note]

end Session
end Noughts
