import Noughts.Proofs.Json.History
import Noughts.Proofs.Session.Protocol
import Noughts.Proofs.Terminal.Transcript

/-!
What is offered is what is accepted.

A session offers the open squares of its game, and the game checks a move in its own
way: first that its square is on the board and then that nothing stands there.  In
every game that moves lead to the two come to the same (`Game.Invites`).  While the game
goes on there is a square to offer, a move is accepted exactly if its square is offered,
and a token exactly if it is read as one of the squares that the prompt names.  An
accepted move takes its square off the offer and changes nothing else about it.

A game that is over still has its open squares and refuses them like all others, as far
as they can be spelled (`Game.invites_until_over`).
-/

namespace Noughts

namespace Drawing

/-- The prompt names the squares in order.  Every name is read as its square. -/
def Lists (text : List Char) (squares : List Square) : Prop :=
  ∃ names : List String,
    text = "select location [".toList ++ [',', ' '].intercalate (names.map String.toList) ++
      "]: ".toList ∧
    names.map Square.ofToken = squares.map .ok

theorem lists_offer {squares : List Square} (h : ∀ s ∈ squares, s.OnBoard) :
    Lists (offer squares) squares := by
  refine ⟨(squares.map Square.spelling).map String.ofList, ?_, Square.map_ofToken_spelling h⟩
  have hnames : ((squares.map Square.spelling).map String.ofList).map String.toList =
      squares.map Square.spelling := by
    simp only [List.map_map, Function.comp_def, String.toList_ofList]
  rw [hnames]
  rfl

theorem exists_lists {squares : List Square} (h : ∀ s ∈ squares, s.OnBoard) :
    ∃ text, prompt squares = .ok text ∧ Lists text squares :=
  ⟨offer squares, prompt_of_spellable fun s hs => (h s hs).spellable, lists_offer h⟩

end Drawing

/-- The token moves the game on.  A token that is refused leaves it as it was. -/
def Session.Accepts {σ : Type} (host : Host σ) (s : Session σ) (token : String) : Prop :=
  (s.handle host token).2.game ≠ s.game

namespace Game

/-- What holds of the squares that are offered in a game that goes on. -/
structure Invites (g : Game) : Prop where
  nonempty : g.openSquares ≠ []
  ordered : g.openSquares.Pairwise Square.Before
  count : g.history.length + g.openSquares.length = 9
  playable : ∀ s, (∃ next, g.play s = .ok next) ↔ s ∈ g.openSquares
  remaining : ∀ s next, g.play s = .ok next → next.openSquares = g.openSquares.erase s
  prompted : ∃ text, Drawing.prompt g.openSquares = .ok text ∧ Drawing.Lists text g.openSquares
  heard : ∀ {σ : Type} (host : Host σ) (s : Session σ) (token : String), s.game = g →
    s.phase = .awaitingMove →
      (s.Accepts host token ↔ ∃ sq ∈ g.openSquares, Square.ofToken token = .ok sq) ∧
      ∀ sq ∈ g.openSquares, Square.ofToken token = .ok sq →
        g.play sq = .ok (s.handle host token).2.game

variable {g : Game}

theorem successor_ne (g : Game) (s : Square) : g.successor s ≠ g := by
  intro h
  have hlength := congrArg (fun g : Game => g.history.length) h
  simp [successor] at hlength

theorem follow_ne_iff {token : String} :
    g.follow token ≠ g ↔ ∃ s ∈ g.openSquares, Square.ofToken token = .ok s := by
  unfold follow
  cases Square.ofToken token with
  | error e => simp
  | ok s =>
    by_cases hs : s ∈ g.openSquares
    · simp [hs, successor_ne]
    · simp [hs]

theorem openSquares_of_play {s : Square} {next : Game} (h : g.play s = .ok next) :
    next.openSquares = g.openSquares.erase s := by
  obtain ⟨⟨-, hs⟩, -, rfl, -⟩ := play_eq_ok_iff.1 h
  exact Board.openSquares_put (Board.mem_openSquares.1 hs).1 g.player

namespace Played

variable {moves : List Square}

theorem length_openSquares (hp : g.Played moves) :
    g.history.length + g.openSquares.length = 9 := by
  obtain ⟨-, -, hcount, -⟩ := hp.consistent
  rw [← hcount]
  exact g.board.claimed_add_length_openSquares

/-- A full board ends the game, so a game that goes on has an open square. -/
theorem openSquares_ne_nil (hp : g.Played moves) (h : g.isOver = false) :
    g.openSquares ≠ [] := by
  intro hnil
  have hlength := hp.length_openSquares
  rw [hnil, hp.history] at hlength
  exact hp.isOver_eq_false_iff.1 h (.inl hlength)

theorem exists_play_iff (hp : g.Played moves) (h : g.isOver = false) (s : Square) :
    (∃ next, g.play s = .ok next) ↔ s ∈ g.openSquares :=
  ⟨fun ⟨_, hnext⟩ => (play_eq_ok_iff.1 hnext).1.2,
    fun hs => ⟨_, (hp.play_of_mem_openSquares h hs).1⟩⟩

end Played

theorem heard_of_reached (hg : g.Reached) (h : g.isOver = false) {σ : Type} (host : Host σ)
    {s : Session σ} (token : String) (hgame : s.game = g) (hphase : s.phase = .awaitingMove) :
    (s.Accepts host token ↔ ∃ sq ∈ g.openSquares, Square.ofToken token = .ok sq) ∧
      ∀ sq ∈ g.openSquares, Square.ofToken token = .ok sq →
        g.play sq = .ok (s.handle host token).2.game := by
  subst hgame
  have hp := played_of_ofMoves hg.ofMoves_history
  have hlawful : s.Lawful :=
    ⟨by simp [hphase, h], hg.ofMoves_history, violations_eq_nil_iff.2 hp.consistent⟩
  rw [Session.Accepts, Session.game_handle host hlawful hphase]
  refine ⟨follow_ne_iff, fun sq hsq htoken => ?_⟩
  have hfollow : s.game.follow token = s.game.successor sq := by
    simp only [follow, htoken, if_pos hsq]
  rw [hfollow]
  exact (hp.play_of_mem_openSquares h hsq).1

theorem invites_of_reached (hg : g.Reached) (h : g.isOver = false) : g.Invites :=
  have hp := played_of_ofMoves hg.ofMoves_history
  { nonempty := hp.openSquares_ne_nil h
    ordered := g.offers_openSquares.ordered
    count := hp.length_openSquares
    playable := hp.exists_play_iff h
    remaining := fun _ _ => openSquares_of_play
    prompted := Drawing.exists_lists fun _ hs => (Board.mem_openSquares.1 hs).1
    heard := fun host _ => heard_of_reached hg h host }

theorem play_of_isOver_iff (h : g.isOver = true) {s : Square} :
    g.play s = .error (.refused .gameOver) ↔ s.Spellable := by
  constructor
  · intro hplay
    refine Decidable.byContradiction fun hs => ?_
    rw [play_of_not_spellable g hs] at hplay
    cases hplay
  · intro hs
    obtain ⟨t, ht⟩ := Square.text_of_spellable hs
    exact play_of_isOver h ht

/-- A game that moves lead to accepts just what it offers until it is over.  From then on it
refuses every move because of that, exactly if the square of the move can be spelled, and
any other move ends in a fault. -/
theorem invites_until_over (hg : g.Reached) :
    (g.isOver = false → g.Invites) ∧
      (g.isOver = true → ∀ s,
        (g.play s = .error (.refused .gameOver) ↔ s.Spellable) ∧
          (¬ s.Spellable → g.play s = .error (.fault .overflow))) :=
  ⟨invites_of_reached hg, fun h _ => ⟨play_of_isOver_iff h, play_of_not_spellable g⟩⟩

theorem exists_columnWin : ∃ g : Game, ofMoves columnWin = .ok g ∧ g.Reached ∧ g.isOver = true := by
  have hlegal : Moves.Legal columnWin := by decide +kernel
  obtain ⟨g, hg, hp⟩ := ofMoves_of_legal hlegal
  exact ⟨g, hg, Reached.new.playAll hg, hp.isOver_iff.2 (.inr ⟨.x, by decide⟩)⟩

/-- The column before its last move, where five squares are left, and after it, where four
are left that can not be had. -/
theorem invites_columnWin :
    (∃ g : Game, ofMoves (columnWin.take 4) = .ok g ∧ g.Reached ∧ g.isOver = false ∧ g.Invites) ∧
      ∃ g : Game, ofMoves columnWin = .ok g ∧ g.Reached ∧
        g.play ⟨2, 2⟩ = .error (.refused .gameOver) := by
  constructor
  · have hlegal : Moves.Legal (columnWin.take 4) := by decide +kernel
    obtain ⟨g, hg, hp⟩ := ofMoves_of_legal hlegal
    have hreached : g.Reached := Reached.new.playAll hg
    have hover : g.isOver = false := hp.isOver_eq_false_iff.2 (by decide)
    exact ⟨g, hg, hreached, hover, (invites_until_over hreached).1 hover⟩
  · obtain ⟨g, hg, hreached, hover⟩ := exists_columnWin
    exact ⟨g, hg, hreached, (((invites_until_over hreached).2 hover ⟨2, 2⟩).1).2 (by decide)⟩

/-- The won game has an open square and does not say that it is over to a move in the last
column that a word can name. -/
theorem not_gameOver_last_column :
    ∃ g : Game, ofMoves columnWin = .ok g ∧ g.Reached ∧ g.isOver = true ∧
      g.play ⟨0, 18446744073709551615⟩ ≠ .error (.refused .gameOver) := by
  obtain ⟨g, hg, hreached, hover⟩ := exists_columnWin
  refine ⟨g, hg, hreached, hover, fun hplay => ?_⟩
  exact absurd ((play_of_isOver_iff hover).1 hplay) (by decide)

end Game
end Noughts
