import Noughts.Game.Play
import Noughts.Json.Encode
import Noughts.Proofs.Json.Format
import Noughts.Proofs.Square.Spelling

/-!
Games that are written and read again.

Not every game has a JSON form that can be read.  A square off the board is
written by its coordinates, and no token names it.  The history of a game is
where such a square could be, and no game that a program can get hold of has one
there: a move is only played on the board, and a token names no other square
(`Game.Obtained.onBoard`).  Every other part of a game is read back from what is
written for it, whatever its value, so the games that can be obtained are those
with a history on the board, and each of them is read back whole
(`Game.obtained_rereads`).
-/

namespace Noughts

theorem Square.DenotedBy.onBoard {s : Square} {j : Json} (h : s.DenotedBy j) : s.OnBoard := by
  obtain ⟨token, -, hs⟩ := h
  exact Square.onBoard_of_ofToken hs

namespace Decode

variable {α ε : Type}

/-! ## What is written is read -/

theorem mark_toJson (m : Mark) : mark m.toJson = .ok m := by
  cases m <;> rfl

theorem cell_toJson (c : Cell) : cell c.toJson = .ok c := by
  cases c with
  | none => rfl
  | some m => cases m <;> rfl

theorem outcome_toJson (o : Outcome) : outcome o.toJson = .ok o := by
  cases o with
  | inProgress => rfl
  | win m => cases m <;> rfl
  | draw => rfl

theorem three_ofFn {read : Json → Except DecodeError α} {write : α → Json}
    (h : ∀ a, read (write a) = .ok a) (f : Fin 3 → α) :
    three read (.array ((List.ofFn f).map write)) = .ok f := by
  have hitems : (List.ofFn f).map write = [write (f 0), write (f 1), write (f 2)] := rfl
  rw [hitems]
  exact three_items (h _) (h _) (h _)

theorem grid_toJson (b : Board) :
    grid (.array (b.rows.map fun row => .array (row.map Cell.toJson))) = .ok b := by
  have hrows : b.rows.map (fun row => Json.array (row.map Cell.toJson)) =
      (List.ofFn b.grid).map fun row => .array ((List.ofFn row).map Cell.toJson) := rfl
  have hread : three (three cell) (.array (b.rows.map fun row => .array (row.map Cell.toJson))) =
      .ok b.grid := by
    rw [hrows]
    exact three_ofFn (fun row => three_ofFn cell_toJson row) b.grid
  simp only [grid, hread]
  rfl

theorem board_toJson (b : Board) : board b.toJson = .ok b :=
  board_eq_ok_iff.2 ⟨_, .fields (.cons rfl .nil), grid_eq_ok_iff.1 (grid_toJson b)⟩

theorem exists_square_toJson {s : Square} (h : s.OnBoard) :
    ∃ j, s.toJson = .ok j ∧ square j = .ok s := by
  have htext := Square.text_of_onBoard h
  refine ⟨_, by simp only [Square.toJson, htext]; rfl, ?_⟩
  simp only [square, Square.ofToken_of_text h htext]

/-- Elements that are read back one by one are read back as a list. -/
theorem exists_each_mapM {read : Json → Except DecodeError α} {write : α → Except ε Json}
    {l : List α} (h : ∀ a ∈ l, ∃ j, write a = .ok j ∧ read j = .ok a) :
    ∃ items, l.mapM write = .ok items ∧ each read items = .ok l := by
  induction l with
  | nil => exact ⟨[], rfl, rfl⟩
  | cons a rest ih =>
    obtain ⟨⟨j, hj, hread⟩, hrest⟩ := List.forall_mem_cons.1 h
    obtain ⟨items, hitems, heach⟩ := ih hrest
    refine ⟨j :: items, ?_, ?_⟩
    · simp only [List.mapM_cons, hj, hitems]
      rfl
    · simp only [each, hread, heach]
      rfl

theorem exists_squares_toJson {moves : List Square} (h : ∀ s ∈ moves, s.OnBoard) :
    ∃ j, Square.listToJson moves = .ok j ∧ squares j = .ok moves := by
  obtain ⟨items, hitems, heach⟩ := exists_each_mapM fun s hs => exists_square_toJson (h s hs)
  refine ⟨.array items, ?_, heach⟩
  simp only [Square.listToJson, hitems]
  rfl

theorem exists_game_toJson {g : Game} (h : ∀ s ∈ g.history, s.OnBoard) :
    ∃ j, g.toJson = .ok j ∧ game j = .ok g := by
  obtain ⟨j, hj, hread⟩ := exists_squares_toJson h
  refine ⟨_, by simp only [Game.toJson, hj]; rfl, ?_⟩
  rw [game_eq_ok_iff]
  refine ⟨_, _, _, _, _, .fields (.cons rfl (.cons rfl (.cons rfl (.cons rfl (.cons rfl .nil))))),
    board_eq_ok_iff.1 (board_toJson _), mark_eq_ok_iff.1 (mark_toJson _), rfl,
    squares_eq_ok_iff.1 hread, outcome_eq_ok_iff.1 (outcome_toJson _)⟩

/-! ## What is read is on the board -/

theorem onBoard_of_squares {j : Json} {moves : List Square} (h : squares j = .ok moves) :
    ∀ s ∈ moves, s.OnBoard := by
  obtain ⟨items, -, hdenoted⟩ := squares_eq_ok_iff.1 h
  clear h
  induction hdenoted with
  | nil =>
    intro s hs
    cases hs
  | cons hs _ ih => exact List.forall_mem_cons.2 ⟨hs.onBoard, ih⟩

theorem exists_squares_of_game {j : Json} {g : Game} (h : game j = .ok g) :
    ∃ k, squares k = .ok g.history := by
  obtain ⟨-, -, -, history, -, -, -, -, -, hhistory, -⟩ := game_eq_ok_iff.1 h
  exact ⟨history, squares_eq_ok_iff.2 hhistory⟩

theorem onBoard_of_game {j : Json} {g : Game} (h : game j = .ok g) :
    ∀ s ∈ g.history, s.OnBoard := by
  obtain ⟨k, hk⟩ := exists_squares_of_game h
  exact onBoard_of_squares hk

/-- Reads a game, writes it, and reads what was written. -/
def reread (j : Json) : Except Fault (Except DecodeError Game) :=
  match game j with
  | .error e => .ok (.error e)
  | .ok g => do return game (← g.toJson)

end Decode

namespace Game

/-- The games that a program can get hold of. -/
inductive Obtained : Game → Prop
  | new : Obtained .new
  | decoded {j : Json} {g : Game} (h : Decode.game j = .ok g) : Obtained g
  | replayed {moves : List Square} {g : Game} (h : ofMoves moves = .ok g) : Obtained g
  | played {g next : Game} {s : Square} (hg : Obtained g) (h : g.play s = .ok next) : Obtained next

theorem onBoard_of_play {g next : Game} {s : Square} (hg : ∀ t ∈ g.history, t.OnBoard)
    (h : g.play s = .ok next) : ∀ t ∈ next.history, t.OnBoard := by
  obtain ⟨⟨-, hs⟩, -, rfl, -⟩ := play_eq_ok_iff.1 h
  show ∀ t ∈ g.history ++ [s], t.OnBoard
  intro t ht
  rcases List.mem_append.1 ht with ht | ht
  · exact hg t ht
  · obtain rfl := List.mem_singleton.1 ht
    exact (Board.mem_openSquares.1 hs).1

theorem onBoard_of_playAll {g last : Game} {moves : List Square}
    (hg : ∀ t ∈ g.history, t.OnBoard) (h : g.playAll moves = .ok last) :
    ∀ t ∈ last.history, t.OnBoard := by
  induction moves generalizing g with
  | nil =>
    cases h
    exact hg
  | cons s rest ih =>
    unfold playAll at h
    split at h
    · cases h
    · rename_i next hplay
      exact ih (onBoard_of_play hg hplay) h

theorem Obtained.onBoard {g : Game} (h : g.Obtained) : ∀ s ∈ g.history, s.OnBoard := by
  have hnew : ∀ s ∈ Game.new.history, s.OnBoard := by
    intro s hs
    cases hs
  induction h with
  | new => exact hnew
  | decoded h => exact Decode.onBoard_of_game h
  | replayed h => exact onBoard_of_playAll hnew h
  | played _ h ih => exact onBoard_of_play ih h

/-- A game can be obtained exactly if its history is on the board.  What is written
for it is then read as the same game, so to read, write and read again is to read
once, of any value. -/
theorem obtained_rereads :
    (∀ g : Game, (g.Obtained ↔ ∀ s ∈ g.history, s.OnBoard) ∧
      (g.Obtained → ∃ j, g.toJson = .ok j ∧ Decode.game j = .ok g)) ∧
    ∀ j, Decode.reread j = .ok (Decode.game j) := by
  refine ⟨fun g => ⟨⟨Obtained.onBoard, fun h => ?_⟩, fun h => ?_⟩, fun j => ?_⟩
  · obtain ⟨j, -, hread⟩ := Decode.exists_game_toJson h
    exact .decoded hread
  · exact Decode.exists_game_toJson h.onBoard
  · unfold Decode.reread
    cases hj : Decode.game j with
    | error e => rfl
    | ok g =>
      obtain ⟨j', hj', hread⟩ := Decode.exists_game_toJson (Decode.onBoard_of_game hj)
      simp only [hj']
      exact congrArg Except.ok hread

/-- A game at the last turn there is, in forms in which no game is written: records
as arrays, marks as fields, more fields than are read, and tokens with blanks and
capitals. -/
def looseForm : Json :=
  .array
    [.object
      [("size", .integer 3),
       ("cells", .array
        [.array [.object [("X", .null)], .string "Empty", .string "Empty"],
         .array [.string "Empty", .object [("O", .null)], .string "Empty"],
         .array [.string "Empty", .object [("Empty", .null)], .string "X"]])],
     .object [("O", .null)],
     .integer 18446744073709551615,
     .array [.string " A1\n", .string "b2", .string "\u3000C3 "],
     .object [("Win", .object [("X", .null)])]]

theorem rereads_looseForm :
    ∃ g, Decode.game looseForm = .ok g ∧ g.Obtained ∧ g.turn = 18446744073709551615 ∧
      g.history = [⟨0, 0⟩, ⟨1, 1⟩, ⟨2, 2⟩] ∧ g.outcome = .win .x ∧
      Decode.reread looseForm = .ok (.ok g) := by
  have hparts : (Decode.game looseForm).toOption.map (fun g => (g.turn, g.history, g.outcome)) =
      some (18446744073709551615, [⟨0, 0⟩, ⟨1, 1⟩, ⟨2, 2⟩], .win .x) := by
    decide +kernel
  obtain ⟨-, hreread⟩ := obtained_rereads
  cases h : Decode.game looseForm with
  | error e =>
    rw [h] at hparts
    cases hparts
  | ok g =>
    rw [h] at hparts
    simp only [Except.toOption, Option.map_some, Option.some.injEq, Prod.mk.injEq] at hparts
    obtain ⟨hturn, hhistory, houtcome⟩ := hparts
    exact ⟨g, rfl, .decoded h, hturn, hhistory, houtcome, h ▸ hreread looseForm⟩

end Game
end Noughts
