import Noughts.Proofs.Session.Protocol

/-!
Runs resumed after a failure.

A run that fails takes the failed item off its script and nothing else, so it can
be resumed.  `Session.insist` runs a session again and again, until a run returns
an outcome or the script is used up, and `Session.insist_resumes` compares that
with one run over the script without its failures.  Game and phase end the same,
the same outcome comes back if one does, and the failures come back one by one.
The players are told the same, except that each run first shows them the game.

The comparison rests on the tokens.  `Insists` puts the runs together and says that
all of them follow the tokens of the items they met.  Those are decided by the
tokens of the whole script (`Game.Decides`), which are the same with and without
its failures, and only one list of tokens is (`Game.Decides.unique`).
-/

namespace Noughts

/-! ## Scripts and their failures -/

namespace Script

/-- The tokens among some items of a script. -/
def tokens (items : List (Except InputError String)) : List String :=
  items.filterMap Except.toOption

def failure? : Except InputError String → Option InputError
  | .error e => some e
  | .ok _ => none

/-- The failures among some items of a script. -/
def failures (items : List (Except InputError String)) : List InputError :=
  items.filterMap failure?

/-- The items that would be left if nothing failed before the end of the script. -/
def withoutFailures (items : List (Except InputError String)) : List (Except InputError String) :=
  items.filter Except.isOk

@[simp] theorem tokens_nil : tokens [] = [] := rfl

@[simp] theorem tokens_error (e : InputError) (rest : List (Except InputError String)) :
    tokens (.error e :: rest) = tokens rest := rfl

@[simp] theorem tokens_append (before after : List (Except InputError String)) :
    tokens (before ++ after) = tokens before ++ tokens after :=
  List.filterMap_append

@[simp] theorem tokens_map_ok (l : List String) : tokens (l.map .ok) = l := by
  induction l with
  | nil => rfl
  | cons token rest ih => exact congrArg (token :: ·) ih

@[simp] theorem failures_nil : failures [] = [] := rfl

@[simp] theorem failures_error (e : InputError) (rest : List (Except InputError String)) :
    failures (.error e :: rest) = e :: failures rest := rfl

@[simp] theorem failures_append (before after : List (Except InputError String)) :
    failures (before ++ after) = failures before ++ failures after :=
  List.filterMap_append

@[simp] theorem failures_map_ok (l : List String) : failures (l.map .ok) = [] := by
  induction l with
  | nil => rfl
  | cons token rest ih => exact ih

theorem withoutFailures_eq_map (items : List (Except InputError String)) :
    withoutFailures items = (tokens items).map .ok := by
  induction items with
  | nil => rfl
  | cons item rest ih =>
    cases item with
    | error e => exact ih
    | ok token =>
      show .ok token :: withoutFailures rest = .ok token :: (tokens rest).map .ok
      rw [ih]

end Script

/-! ## One run after another -/

namespace Session

theorem items_handle_script (s : Session Script) (token : String) :
    (s.handle Script.host token).2.world.items = s.world.items := by
  unfold handle
  split
  · rfl
  · split
    · rfl
    · rfl
    · rfl
    · rfl

/-- A turn takes one item off the script, whatever it is. -/
theorem items_turn_script (s : Session Script) :
    (s.turn Script.host).2.world.items = s.world.items.tail := by
  cases h : s.world.items with
  | nil =>
    rw [turn_of_nil h]
    rfl
  | cons item rest =>
    cases item with
    | error e =>
      rw [turn_of_failure h]
      rfl
    | ok token =>
      rw [turn_of_token h, items_handle_script]
      rfl

/-- Turns that end with a failure have come to the end of the script or have taken
an item off it. -/
theorem length_items_takeTurns (s : Session Script)
    (h : (s.takeTurns Script.host).1.isOk = false) :
    (s.takeTurns Script.host).2.world.items = [] ∨
      (s.takeTurns Script.host).2.world.items.length < s.world.items.length := by
  induction s using takeTurns.induct Script.host with
  | case1 s hphase =>
    rw [takeTurns_of_finished _ hphase] at h
    cases h
  | case2 s hphase e next hturn =>
    have htail := items_turn_script s
    rw [hturn] at htail
    rw [takeTurns_of_error hphase hturn, htail]
    cases s.world.items with
    | nil => exact .inl rfl
    | cons item rest => exact .inr (Nat.lt_succ_self _)
  | case3 s hphase phase next hturn ih =>
    have htail := items_turn_script s
    rw [hturn] at htail
    rw [takeTurns_of_ok hphase hturn] at h ⊢
    have hle : next.world.items.length ≤ s.world.items.length := by
      rw [htail, List.length_tail]
      omega
    rcases ih h with hnil | hlt
    · exact .inl hnil
    · exact .inr (Nat.lt_of_lt_of_le hlt hle)

/-- One of several runs of a session: the game it starts with, the calls it makes
and what it returns. -/
structure Attempt where
  game : Game
  calls : List Event
  result : Except SessionError Outcome

def attempt (s : Session Script) : Attempt :=
  let r := s.run Script.host
  { game := s.game, calls := r.2.world.log.drop s.world.log.length, result := r.1 }

/-- Runs the session until a run returns an outcome or nothing is left of the
script, and lists the runs. -/
def insist (s : Session Script) : List Attempt × Session Script :=
  if _h : s.attempt.result.isOk = true ∨ (s.run Script.host).2.world.items = [] then
    ([s.attempt], (s.run Script.host).2)
  else
    (s.attempt :: (s.run Script.host).2.insist.1, (s.run Script.host).2.insist.2)
termination_by s.world.items.length
decreasing_by
  all_goals
    obtain ⟨hfail, hleft⟩ := not_or.1 _h
    exact (length_items_takeTurns _ (Bool.eq_false_iff.2 hfail)).resolve_left hleft

theorem insist_of_last {s : Session Script}
    (h : s.attempt.result.isOk = true ∨ (s.run Script.host).2.world.items = []) :
    s.insist = ([s.attempt], (s.run Script.host).2) := by
  rw [insist, dif_pos h]

theorem insist_of_more {s : Session Script}
    (h : ¬ (s.attempt.result.isOk = true ∨ (s.run Script.host).2.world.items = [])) :
    s.insist =
      (s.attempt :: (s.run Script.host).2.insist.1, (s.run Script.host).2.insist.2) := by
  rw [insist, dif_neg h]

end Session

/-! ## The tokens that decide a game -/

namespace Game

theorem followAll_append (g : Game) (before after : List String) :
    g.followAll (before ++ after) = (g.followAll before).followAll after :=
  List.foldl_append

theorem exchanges_append (g : Game) (before after : List String) :
    g.exchanges (before ++ after) =
      g.exchanges before ++ (g.followAll before).exchanges after := by
  induction before generalizing g with
  | nil => rfl
  | cons token rest ih =>
    rw [List.cons_append, exchanges_cons, ih, exchanges_cons]
    rfl

theorem undecided_append {g : Game} {before after : List String} (h : g.Undecided before)
    (h' : (g.followAll before).Undecided after) : g.Undecided (before ++ after) := by
  intro n hn
  rcases Nat.lt_or_ge n before.length with hlt | hge
  · rw [List.take_append_of_le_length (Nat.le_of_lt hlt)]
    exact h n hlt
  · rw [List.take_append, List.take_of_length_le hge, followAll_append]
    apply h'
    rw [List.length_append] at hn
    omega

/-- The tokens taken are the first ones of all, up to the one that ends the game if
there is one. -/
structure Decides (g : Game) (all taken : List String) : Prop where
  isPrefix : taken <+: all
  undecided : g.Undecided taken
  stops : (g.followAll taken).isOver = true ∨ taken = all

theorem Decides.length_le {g : Game} {all p q : List String} (hp : g.Decides all p)
    (hq : g.Decides all q) : q.length ≤ p.length := by
  apply Nat.le_of_not_lt
  intro hlt
  have hpq : p <+: q :=
    List.prefix_of_prefix_length_le hp.isPrefix hq.isPrefix (Nat.le_of_lt hlt)
  rcases hp.stops with hover | hall
  · -- The game would be over before the last token of `q`.
    have hrunning := hq.undecided p.length hlt
    rw [← List.prefix_iff_eq_take.1 hpq, hover] at hrunning
    cases hrunning
  · have hle := hq.isPrefix.length_le
    rw [← hall] at hle
    omega

theorem Decides.unique {g : Game} {all p q : List String} (hp : g.Decides all p)
    (hq : g.Decides all q) : p = q := by
  have hlen : p.length = q.length := Nat.le_antisymm (hq.length_le hp) (hp.length_le hq)
  have hpq : p <+: q :=
    List.prefix_of_prefix_length_le hp.isPrefix hq.isPrefix (Nat.le_of_eq hlen)
  exact hpq.eq_of_length hlen

end Game

/-! ## Calls of resumed runs -/

namespace Event

/-- The calls that tell the players something, which are all but the questions. -/
def toldIn (calls : List Event) : List Event :=
  calls.filter fun call => !call.isAsked

@[simp] theorem toldIn_append (before after : List Event) :
    toldIn (before ++ after) = toldIn before ++ toldIn after :=
  List.filter_append before after

@[simp] theorem toldIn_displayed (g : Game) (calls : List Event) :
    toldIn (.displayed g :: calls) = .displayed g :: toldIn calls := rfl

end Event

namespace Session

@[simp] theorem toldIn_lastCalls (r : Except SessionError Outcome × Session Script) :
    Event.toldIn (lastCalls r) = [] := by
  rcases lastCalls_cases r with ⟨hlast, -⟩ | ⟨hlast, -⟩
  · rw [hlast]
    rfl
  · rw [hlast]
    rfl

/-- The calls of a run that starts with `s` and takes `tokens` off the script. -/
def callsOfRun (s : Session Script) (tokens : List String) : List Event :=
  .displayed s.game :: (s.game.exchanges tokens ++ lastCalls (s.run Script.host))

theorem run_recounts {s : Session Script} (hs : s.Sound) :
    ∃ tokens, Follows s.game s.world.items (s.run Script.host) tokens ∧
      (s.run Script.host).2.world.log = s.world.log ++ s.callsOfRun tokens := by
  let s' : Session Script := { s with world := s.world.note (.displayed s.game) }
  have hs' : s'.Sound := ⟨hs.played, hs.phase⟩
  obtain ⟨tokens, hfollows, hlog⟩ := takeTurns_recounts hs' rfl
  refine ⟨tokens, hfollows, ?_⟩
  show (takeTurns Script.host s').2.world.log = _
  rw [hlog]
  simp [s', Script.note, callsOfRun]
  rfl

theorem calls_attempt {s : Session Script} {calls : List Event}
    (h : (s.run Script.host).2.world.log = s.world.log ++ calls) : s.attempt.calls = calls := by
  show (s.run Script.host).2.world.log.drop s.world.log.length = calls
  rw [h, List.drop_left]

/-- What the runs return at last, after the failures.  The outcome comes last if the
game is over.  If it is not, the script is used up, and a run that met its end
returns the closed input. -/
def Closing (items : List (Except InputError String)) (t : Session Script)
    (last : List (Except SessionError Outcome)) : Prop :=
  (t.game.isOver = true ∧ last = [.ok t.game.outcome]) ∨
    (t.game.isOver = false ∧ t.world.items = [] ∧
      ((∃ e, items.getLast? = some (.error e)) ∧ last = [] ∨
        (∀ e, items.getLast? ≠ some (.error e)) ∧ last = [.error (.input .closed)]))

/-- How some runs that start with `s` and end with `t` get through the items `met`. -/
structure Insists (s : Session Script) (attempts : List Attempt) (t : Session Script)
    (met : List (Except InputError String)) : Prop where
  items : s.world.items = met ++ t.world.items
  lawful : t.Lawful
  undecided : s.game.Undecided (Script.tokens met)
  game : t.game = s.game.followAll (Script.tokens met)
  results : ∃ last, Closing s.world.items t last ∧
    attempts.map Attempt.result = (Script.failures met).map (fun e => .error (.input e)) ++ last
  log : t.world.log = s.world.log ++ attempts.flatMap Attempt.calls
  opened : ∀ a ∈ attempts, ∃ rest, a.calls = .displayed a.game :: rest
  told : attempts.flatMap (fun a => Event.toldIn a.calls.tail) =
    Event.toldIn (s.game.exchanges (Script.tokens met))

theorem Insists.of_run {s : Session Script} {tokens : List String}
    {met : List (Except InputError String)} {last : List (Except SessionError Outcome)}
    (hs : s.Lawful) (hfollows : Follows s.game s.world.items (s.run Script.host) tokens)
    (hlog : (s.run Script.host).2.world.log = s.world.log ++ s.callsOfRun tokens)
    (hitems : s.world.items = met ++ (s.run Script.host).2.world.items)
    (htokens : Script.tokens met = tokens)
    (hclosing : Closing s.world.items (s.run Script.host).2 last)
    (hresult : [(s.run Script.host).1] =
      (Script.failures met).map (fun e => .error (.input e)) ++ last) :
    Insists s [s.attempt] (s.run Script.host).2 met := by
  have hcalls := calls_attempt hlog
  refine ⟨hitems, hs.run _, htokens ▸ hfollows.undecided, htokens ▸ hfollows.game,
    ⟨last, hclosing, hresult⟩, ?_, ?_, ?_⟩
  · rw [List.flatMap_singleton, hcalls, hlog]
  · intro a ha
    obtain rfl := List.mem_singleton.1 ha
    exact ⟨_, hcalls⟩
  · rw [List.flatMap_singleton, hcalls, htokens]
    simp [callsOfRun]

/-- A run that failed, and then the runs after it. -/
theorem Insists.cons {s t : Session Script} {tokens : List String} {e : InputError}
    {attempts : List Attempt} {met : List (Except InputError String)}
    (hfollows : Follows s.game s.world.items (s.run Script.host) tokens)
    (hlog : (s.run Script.host).2.world.log = s.world.log ++ s.callsOfRun tokens)
    (hitems : s.world.items = tokens.map .ok ++ .error e :: (s.run Script.host).2.world.items)
    (hresult : (s.run Script.host).1 = .error (.input e))
    (hleft : (s.run Script.host).2.world.items ≠ [])
    (h : Insists (s.run Script.host).2 attempts t met) :
    Insists s (s.attempt :: attempts) t (tokens.map .ok ++ [.error e] ++ met) := by
  have hcalls := calls_attempt hlog
  have htokens : Script.tokens (tokens.map .ok ++ [.error e] ++ met) =
      tokens ++ Script.tokens met := by
    simp
  have hundecided := h.undecided
  have hgame := h.game
  rw [hfollows.game] at hundecided hgame
  refine ⟨?_, h.lawful, ?_, ?_, ?_, ?_, ?_, ?_⟩
  · rw [hitems, h.items]
    simp
  · rw [htokens]
    exact Game.undecided_append hfollows.undecided hundecided
  · rw [htokens, Game.followAll_append]
    exact hgame
  · obtain ⟨last, hclosing, hresults⟩ := h.results
    have hlast : s.world.items.getLast? = (s.run Script.host).2.world.items.getLast? := by
      rw [hitems, List.append_cons, List.getLast?_append, List.getLast?_eq_some_getLast hleft]
      rfl
    refine ⟨last, ?_, ?_⟩
    · unfold Closing at hclosing ⊢
      rwa [hlast]
    · rw [List.map_cons, hresults]
      simp [attempt, hresult]
  · rw [h.log, hlog, List.flatMap_cons, hcalls]
    simp
  · exact List.forall_mem_cons.2 ⟨⟨_, hcalls⟩, h.opened⟩
  · rw [List.flatMap_cons, h.told, hcalls, htokens, Game.exchanges_append, hfollows.game]
    simp [callsOfRun]

theorem exists_insists_of_last {s : Session Script} (hs : s.Lawful)
    (h : s.attempt.result.isOk = true ∨ (s.run Script.host).2.world.items = []) :
    ∃ met, Insists s [s.attempt] (s.run Script.host).2 met := by
  obtain ⟨tokens, hfollows, hlog⟩ := run_recounts hs.sound
  rcases hfollows.ending with ⟨hover, hok, -, hitems⟩ | ⟨hover, -, e, he, hitems⟩
  · refine ⟨tokens.map .ok, .of_run hs hfollows hlog hitems (by simp) (.inl ⟨hover, rfl⟩) ?_⟩
    simp [hok]
  · have hnil : (s.run Script.host).2.world.items = [] := by
      refine h.resolve_left ?_
      show ¬ (s.run Script.host).1.isOk = true
      rw [he]
      exact Bool.false_ne_true
    rcases hitems with hitems | ⟨rfl, hitems, -⟩
    · -- The last item of the script is the one that failed.
      rw [hnil] at hitems
      refine ⟨tokens.map .ok ++ [.error e], .of_run hs hfollows hlog ?_ (by simp)
        (.inr ⟨hover, hnil, .inl ⟨⟨e, ?_⟩, rfl⟩⟩) ?_⟩
      · rw [hitems, hnil, List.append_nil]
      · rw [hitems, List.getLast?_concat]
      · simp [he]
    · -- The run has asked for one item more than there are.
      refine ⟨tokens.map .ok, .of_run hs hfollows hlog ?_ (by simp)
        (.inr ⟨hover, hnil, .inr ⟨?_, rfl⟩⟩) ?_⟩
      · rw [hitems, hnil, List.append_nil]
      · intro e
        rw [hitems]
        simp [List.getLast?_map]
      · simp [he]

theorem exists_insists {s : Session Script} (hs : s.Lawful) :
    ∃ met, Insists s s.insist.1 s.insist.2 met := by
  induction s using insist.induct with
  | case1 s h =>
    rw [insist_of_last h]
    exact exists_insists_of_last hs h
  | case2 s h ih =>
    rw [insist_of_more h]
    obtain ⟨hfail, hleft⟩ := not_or.1 h
    obtain ⟨tokens, hfollows, hlog⟩ := run_recounts hs.sound
    obtain ⟨met, hmet⟩ := ih (hs.run _)
    rcases hfollows.ending with ⟨-, hok, -, -⟩ | ⟨-, -, e, he, hitems⟩
    · exact absurd (by rw [attempt, hok]; rfl) hfail
    · rcases hitems with hitems | ⟨-, -, hnil⟩
      · exact ⟨_, hmet.cons hfollows hlog hitems he hleft⟩
      · exact absurd hnil hleft

/-! ## Beside a run without failures -/

theorem Insists.decides {s t : Session Script} {attempts : List Attempt}
    {met : List (Except InputError String)} (h : Insists s attempts t met) :
    s.game.Decides (Script.tokens s.world.items) (Script.tokens met) where
  isPrefix := ⟨Script.tokens t.world.items, by rw [h.items, Script.tokens_append]⟩
  undecided := h.undecided
  stops := by
    obtain ⟨last, hclosing, -⟩ := h.results
    rcases hclosing with ⟨hover, -⟩ | ⟨-, hnil, -⟩
    · exact .inl (h.game ▸ hover)
    · exact .inr (by rw [h.items, hnil, List.append_nil])

theorem Follows.decides {g : Game} {l tokens : List String}
    {r : Except SessionError Outcome × Session Script} (h : Follows g (l.map .ok) r tokens) :
    g.Decides l tokens := by
  rcases h.ending with ⟨hover, -, -, hitems⟩ | ⟨-, -, e, -, hitems | ⟨-, hitems, -⟩⟩
  · have hall := congrArg Script.tokens hitems
    rw [Script.tokens_append, Script.tokens_map_ok, Script.tokens_map_ok] at hall
    exact ⟨⟨_, hall.symm⟩, h.undecided, .inl (h.game ▸ hover)⟩
  · -- Among tokens there is no failure to end the run.
    have hnone := congrArg Script.failures hitems
    simp at hnone
  · have hall := congrArg Script.tokens hitems
    rw [Script.tokens_map_ok, Script.tokens_map_ok] at hall
    exact ⟨⟨[], by rw [List.append_nil, hall]⟩, h.undecided, .inr hall.symm⟩

theorem Closing.ok_mem_iff {items : List (Except InputError String)} {t : Session Script}
    {last : List (Except SessionError Outcome)} (h : Closing items t last) (outcome : Outcome) :
    .ok outcome ∈ last ↔ t.game.isOver = true ∧ outcome = t.game.outcome := by
  rcases h with ⟨hover, rfl⟩ | ⟨hover, -, ⟨-, rfl⟩ | ⟨-, rfl⟩⟩
  · simp [hover]
  · simp [hover]
  · simp [hover]

theorem Follows.eq_ok_iff {g : Game} {items : List (Except InputError String)}
    {tokens : List String} {r : Except SessionError Outcome × Session Script}
    (h : Follows g items r tokens) (outcome : Outcome) :
    r.1 = .ok outcome ↔ r.2.game.isOver = true ∧ outcome = r.2.game.outcome := by
  rcases h.ending with ⟨hover, hok, -, -⟩ | ⟨hover, -, e, he, -⟩
  · simp [hover, hok, eq_comm]
  · simp [hover, he]

/-- What running on after every failure comes to, beside a run `r` over the same
script without its failures. -/
structure Resumes (items : List (Except InputError String)) (attempts : List Attempt)
    (t : Session Script) (r : Except SessionError Outcome × Session Script) : Prop where
  game : t.game = r.2.game
  phase : t.phase = r.2.phase
  results : ∃ met last, items = met ++ t.world.items ∧ Closing items t last ∧
    attempts.map Attempt.result = (Script.failures met).map (fun e => .error (.input e)) ++ last
  returned : ∀ outcome, .ok outcome ∈ attempts.map Attempt.result ↔ r.1 = .ok outcome
  log : t.world.log = attempts.flatMap Attempt.calls
  opened : ∀ a ∈ attempts, ∃ rest, a.calls = .displayed a.game :: rest
  told : Event.toldIn r.2.world.log =
    .displayed .new :: attempts.flatMap fun a => Event.toldIn a.calls.tail

/-- Over any script, nothing is lost and nothing is doubled by its failures. -/
theorem insist_resumes (items : List (Except InputError String)) :
    let s := start (Script.ofItems items)
    let r := (start (Script.ofItems (Script.withoutFailures items))).run Script.host
    Resumes items s.insist.1 s.insist.2 r := by
  intro s r
  obtain ⟨met, h⟩ := exists_insists (lawful_start (Script.ofItems items))
  have hr : r.2.Lawful := (lawful_start _).run _
  obtain ⟨tokens, hfollows, hlog⟩ :=
    run_recounts (sound_start (Script.ofItems (Script.withoutFailures items)))
  have hdecides : Game.new.Decides (Script.tokens items) tokens := by
    have hitems := Script.withoutFailures_eq_map items
    exact Follows.decides (hitems ▸ hfollows)
  obtain rfl : Script.tokens met = tokens := h.decides.unique hdecides
  have hgame : s.insist.2.game = r.2.game := h.game.trans hfollows.game.symm
  obtain ⟨last, hclosing, hresults⟩ := h.results
  refine ⟨hgame, ?_, ⟨met, last, h.items, hclosing, hresults⟩, fun outcome => ?_, ?_, h.opened, ?_⟩
  · rw [h.lawful.sound.phase, hr.sound.phase, hgame]
  · rw [hresults, hfollows.eq_ok_iff, ← hgame, ← hclosing.ok_mem_iff]
    simp
  · rw [h.log]
    rfl
  · rw [h.told, hlog]
    simp [start, Script.ofItems, callsOfRun]

end Session
end Noughts
