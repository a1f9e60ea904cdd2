import Noughts.Proofs.Session.Offers
import Noughts.Proofs.Session.Resumption

/-!
A script that names every square finishes the game.

A token closes the square that it names, since an open square is claimed by it and a
square that is not open has been claimed already.  No token opens a square again
(`Game.openSquares_followAll_subset`), so after tokens that name all squares none is open,
and a game without an open square is over.  The order of the tokens and what else is on
the script do not matter (`Script.Covers`).

How many tokens a run accepts is counted on its turns, and every accepted token adds one
move (`Game.length_history_followAll`).  So nine is the most that there can be, and a game
that is over has five (`Session.run_completes`).
-/

namespace Noughts

namespace Script

/-- The tokens before the first failure. -/
def leading : List (Except InputError String) → List String
  | .ok token :: rest => token :: leading rest
  | _ => []

/-- The squares that some tokens name, in order. -/
def named (tokens : List String) : List Square :=
  tokens.filterMap fun token => (Square.ofToken token).toOption

/-- Every square of the board is named before the script fails. -/
def Covers (items : List (Except InputError String)) : Prop :=
  ∀ s ∈ Square.all, ∃ token ∈ leading items, Square.ofToken token = .ok s

instance (items : List (Except InputError String)) : Decidable (Covers items) :=
  inferInstanceAs (Decidable (∀ s ∈ Square.all, _))

@[simp] theorem leading_error (e : InputError) (rest : List (Except InputError String)) :
    leading (.error e :: rest) = [] := rfl

@[simp] theorem leading_map_ok_append (tokens : List String)
    (rest : List (Except InputError String)) :
    leading (tokens.map .ok ++ rest) = tokens ++ leading rest := by
  induction tokens with
  | nil => rfl
  | cons token tokens ih => exact congrArg (token :: ·) ih

theorem named_cons (token : String) (rest : List String) :
    named (token :: rest) = named [token] ++ named rest :=
  List.filterMap_append (l := [token])

theorem named_append (before after : List String) :
    named (before ++ after) = named before ++ named after :=
  List.filterMap_append

end Script

namespace Game

variable {g : Game} {token : String} {tokens : List String} {s : Square}

/-! ## Squares that tokens close -/

theorem openSquares_successor (hs : s ∈ g.openSquares) :
    (g.successor s).openSquares = g.openSquares.erase s :=
  Board.openSquares_put (Board.mem_openSquares.1 hs).1 g.player

theorem openSquares_follow_subset (g : Game) (token : String) :
    (g.follow token).openSquares ⊆ g.openSquares := by
  unfold follow
  cases Square.ofToken token with
  | error e => exact List.Subset.refl _
  | ok s =>
    by_cases hs : s ∈ g.openSquares
    · simp only [if_pos hs, openSquares_successor hs]
      exact List.erase_subset
    · simp only [if_neg hs]
      exact List.Subset.refl _

theorem not_mem_openSquares_follow (h : Square.ofToken token = .ok s) :
    s ∉ (g.follow token).openSquares := by
  simp only [follow, h]
  by_cases hs : s ∈ g.openSquares
  · rw [if_pos hs, openSquares_successor hs]
    exact g.board.nodup_openSquares.not_mem_erase
  · rwa [if_neg hs]

theorem openSquares_followAll_subset (g : Game) (tokens : List String) :
    (g.followAll tokens).openSquares ⊆ g.openSquares := by
  induction tokens generalizing g with
  | nil => exact List.Subset.refl _
  | cons token rest ih =>
    exact List.Subset.trans (ih (g.follow token)) (g.openSquares_follow_subset token)

theorem not_mem_openSquares_followAll (hmem : token ∈ tokens) (h : Square.ofToken token = .ok s) :
    s ∉ (g.followAll tokens).openSquares := by
  obtain ⟨before, after, rfl⟩ := List.append_of_mem hmem
  rw [followAll_append]
  intro hs
  exact not_mem_openSquares_follow h (openSquares_followAll_subset _ after hs)

/-! ## Moves that tokens make -/

theorem history_follow_sublist (g : Game) (token : String) :
    (g.follow token).history.Sublist (g.history ++ Script.named [token]) := by
  unfold follow
  cases h : Square.ofToken token with
  | error e => exact List.sublist_append_left _ _
  | ok s =>
    by_cases hs : s ∈ g.openSquares
    · simp only [if_pos hs, successor, Script.named, List.filterMap_cons, h]
      exact List.Sublist.refl _
    · simp only [if_neg hs]
      exact List.sublist_append_left _ _

theorem history_followAll_sublist (g : Game) (tokens : List String) :
    (g.followAll tokens).history.Sublist (g.history ++ Script.named tokens) := by
  induction tokens generalizing g with
  | nil => exact List.sublist_append_left _ _
  | cons token rest ih =>
    have hstep := (g.history_follow_sublist token).append_right (Script.named rest)
    rw [List.append_assoc, ← Script.named_cons] at hstep
    exact (ih (g.follow token)).trans hstep

/-- The turn moves the game on. -/
def accepts (turn : Game × String) : Bool :=
  (turn.1.playToken turn.2).isOk

theorem length_history_follow (hp : g.Played g.history) (h : g.isOver = false) (token : String) :
    (g.follow token).history.length =
      g.history.length + if accepts (g, token) = true then 1 else 0 := by
  have hplay := playToken_of_played hp h token
  unfold reply follow at hplay
  unfold accepts follow
  simp only [hplay]
  cases Square.ofToken token with
  | error e => rfl
  | ok s =>
    by_cases hs : s ∈ g.openSquares
    · simp only [if_pos hs]
      exact List.length_append
    · simp only [if_neg hs]
      rfl

theorem length_history_followAll (hp : g.Played g.history) (h : g.Undecided tokens) :
    (g.followAll tokens).history.length =
      g.history.length + (g.turns tokens).countP accepts := by
  induction tokens generalizing g with
  | nil => rfl
  | cons token rest ih =>
    have hrest := ih (played_follow hp h.head token) h.tail
    have hstep := length_history_follow hp h.head token
    rw [turns, List.countP_cons]
    show ((g.follow token).followAll rest).history.length = _
    omega

namespace Played

variable {moves : List Square}

theorem length_le (hp : g.Played moves) : g.history.length ≤ 9 := by
  have hlength := hp.length_openSquares
  omega

theorem five_le_length (hp : g.Played moves) (h : g.isOver = true) : 5 ≤ g.history.length := by
  rw [hp.history]
  rcases hp.isOver_iff.1 h with hnine | ⟨m, hline⟩
  · omega
  · exact Moves.five_le_length hline

end Played
end Game

namespace Session

/-- What a run over a script that names every square comes to. -/
structure Completes (items : List (Except InputError String))
    (r : Except SessionError Outcome × Session Script) : Prop where
  returned : r.1 = .ok r.2.game.outcome
  isOver : r.2.game.isOver = true
  atLeast : 5 ≤ r.2.game.history.length
  atMost : r.2.game.history.length ≤ 9
  named : r.2.game.history.Sublist (Script.named (Script.leading items))

/-- How many moves there are after a run that starts with `s` and takes `tokens` off the
script. -/
structure Counts (s : Session Script) (r : Except SessionError Outcome × Session Script)
    (tokens : List String) : Prop where
  follows : Follows s.game s.world.items r tokens
  accepted : r.2.game.history.length =
    s.game.history.length + (s.game.turns tokens).countP Game.accepts
  atMost : r.2.game.history.length ≤ 9
  atLeast : r.2.game.isOver = true → 5 ≤ r.2.game.history.length

theorem run_counts {s : Session Script} (hs : s.Lawful) :
    ∃ tokens, Counts s (s.run Script.host) tokens := by
  obtain ⟨tokens, hfollows, -⟩ := run_recounts hs.sound
  have hp := (hs.run Script.host).sound.played
  refine ⟨tokens, hfollows, ?_, hp.length_le, hp.five_le_length⟩
  rw [hfollows.game]
  exact Game.length_history_followAll hs.sound.played hfollows.undecided

namespace Follows

variable {g : Game} {items : List (Except InputError String)} {tokens : List String}
  {r : Except SessionError Outcome × Session Script}

/-- A run takes tokens before the first failure only, and all of them if its game goes on. -/
theorem takes_leading (h : Follows g items r tokens) :
    tokens <+: Script.leading items ∧ (r.2.game.isOver = false → Script.leading items = tokens) := by
  rcases h.ending with ⟨hover, -, -, hitems⟩ | ⟨-, -, e, -, hitems | ⟨-, hitems, -⟩⟩
  · rw [hitems, Script.leading_map_ok_append]
    refine ⟨List.prefix_append _ _, fun hrunning => ?_⟩
    rw [hover] at hrunning
    cases hrunning
  · have hleading : Script.leading items = tokens := by
      rw [hitems, Script.leading_map_ok_append, Script.leading_error, List.append_nil]
    exact ⟨hleading ▸ List.prefix_refl _, fun _ => hleading⟩
  · have hleading : Script.leading items = tokens := by
      have happend := Script.leading_map_ok_append tokens []
      rw [List.append_nil] at happend
      rw [hitems, happend]
      exact List.append_nil _
    exact ⟨hleading ▸ List.prefix_refl _, fun _ => hleading⟩

theorem isOver_of_covers (h : Follows g items r tokens) (hp : r.2.game.Played r.2.game.history)
    (hcovers : Script.Covers items) : r.2.game.isOver = true := by
  refine Bool.not_eq_false _ ▸ fun hrunning => hp.openSquares_ne_nil hrunning ?_
  refine List.eq_nil_iff_forall_not_mem.2 fun s hs => ?_
  obtain ⟨token, hmem, htoken⟩ := hcovers s (Square.mem_all.2 (Board.mem_openSquares.1 hs).1)
  rw [h.takes_leading.2 hrunning] at hmem
  rw [h.game] at hs
  exact Game.not_mem_openSquares_followAll hmem htoken hs

end Follows

/-- A script that names every square before it fails finishes a new game, with moves that its
tokens name.  Whatever the script and whatever was done with the session before, a game has
at most nine moves, one for each token that is accepted, and is not over before it has five. -/
theorem run_completes (items : List (Except InputError String)) :
    (Script.Covers items → Completes items ((start (Script.ofItems items)).run Script.host)) ∧
      ∀ steps, let s := (start (Script.ofItems items)).performAll Script.host steps
        ∃ tokens, Counts s (s.run Script.host) tokens := by
  refine ⟨fun hcovers => ?_, fun steps => run_counts ((lawful_start _).performAll _ steps)⟩
  have hs : (start (Script.ofItems items)).Lawful := lawful_start _
  obtain ⟨tokens, hcounts⟩ := run_counts hs
  have hfollows : Follows .new items _ tokens := hcounts.follows
  have hover := hfollows.isOver_of_covers (hs.run _).sound.played hcovers
  refine ⟨(hfollows.eq_ok_iff _).2 ⟨hover, rfl⟩, hover, hcounts.atLeast hover, hcounts.atMost, ?_⟩
  obtain ⟨rest, hleading⟩ := hfollows.takes_leading.1
  rw [hfollows.game, ← hleading, Script.named_append]
  exact (Game.new.history_followAll_sublist tokens).trans (List.sublist_append_left _ _)

/-- The squares in no order, one of them twice, among names of nothing. -/
def scattered : List (Except InputError String) :=
  [.ok "B2", .ok " a1", .ok "zebra", .ok "a1", .ok "c3\r\n", .ok "", .ok "c1", .ok "A3",
    .ok "a2", .ok "a4", .ok "c2", .ok "b1", .ok "b3", .error .closed]

theorem run_completes_scattered :
    Script.Covers scattered ∧
      Completes scattered ((start (Script.ofItems scattered)).run Script.host) :=
  have hcovers : Script.Covers scattered := by decide +kernel
  ⟨hcovers, (run_completes scattered).1 hcovers⟩

end Session
end Noughts
