import Noughts.Proofs.Game.Replay
import Noughts.Proofs.Json.RoundTrip
import Noughts.Proofs.Json.Strings

/-!
Games kept as the list of their moves.

A game that was reached by moves is made again from its history: a move that was
accepted is accepted once more, so playing the history leads back to the game and no
other game has the same history.  A game that was read from elsewhere can be anything,
and whether moves lead to it is decided by playing its history
(`Game.reached_iff_ofMoves`).

A history is written as a list of tokens, and the text of such a list is read as the
list (`Decode.ofText?_text_of_squares`).  What it says depends on the names in it and
neither on the blanks around them nor on the case of their letters
(`Decode.squares_of_respelled`), so the game survives any rewriting of these.
-/

namespace Noughts

namespace Square

/-- The same name, but for the blanks around it and the case of its letter. -/
def SameName (t u : String) : Prop :=
  ∃ c d rest, Text.trim t.toList = c :: rest ∧ Text.trim u.toList = d :: rest ∧
    c.toLower = d.toLower

/-- No column has a letter of its own in either case. -/
theorem column?_toLower (c : Char) : column? [c.toLower] = column? [c] := by
  by_cases h : 'A'.val ≤ c.val ∧ c.val ≤ 'Z'.val
  · have hletters : ∀ n ∈ List.range 26,
        column? [(Char.ofNat (65 + n)).toLower] = column? [Char.ofNat (65 + n)] := by
      decide
    have hge : 65 ≤ c.toNat := h.1
    have hle : c.toNat ≤ 90 := h.2
    have hc : Char.ofNat (65 + (c.toNat - 65)) = c := by
      rw [Nat.add_sub_cancel' hge, Char.ofNat_toNat]
    rw [← hc]
    exact hletters _ (List.mem_range.2 (by omega))
  · have hc : c.toLower = c := dif_neg h
    rw [hc]

theorem ofName?_cons_eq_of_toLower_eq {c d : Char} (h : c.toLower = d.toLower)
    (rest : List Char) : ofName? (c :: rest) = ofName? (d :: rest) := by
  have hcolumn : column? [c] = column? [d] := by
    rw [← column?_toLower c, h, column?_toLower]
  simp only [ofName?, hcolumn]

theorem SameName.ofToken {t u : String} (h : SameName t u) {s : Square} (ht : ofToken t = .ok s) :
    ofToken u = .ok s := by
  obtain ⟨c, d, rest, htrim, hutrim, hcase⟩ := h
  rw [ofToken_eq_ok_iff] at ht ⊢
  rw [hutrim, ← ofName?_cons_eq_of_toLower_eq hcase, ← htrim]
  exact ht

end Square

/-- The same list of names, each of them written in any way. -/
def Json.Respelled (j k : Json) : Prop :=
  ∃ tokens others : List String, j = .array (tokens.map .string) ∧ k = .array (others.map .string) ∧
    List.Forall₂ Square.SameName tokens others

namespace Decode

theorem squares_of_respelled {j k : Json} (h : j.Respelled k) {moves : List Square}
    (hj : squares j = .ok moves) : squares k = .ok moves := by
  obtain ⟨tokens, others, rfl, rfl, hsame⟩ := h
  rw [squares_eq_ok_iff] at hj ⊢
  obtain ⟨items, hitems, hdenoted⟩ := hj
  cases hitems
  refine ⟨_, rfl, ?_⟩
  induction hsame generalizing moves with
  | nil => exact hdenoted
  | cons hname _ ih =>
    cases hdenoted with
    | cons hs hrest =>
      obtain ⟨token, htoken, hs⟩ := hs
      cases htoken
      exact .cons ⟨_, rfl, hname.ofToken hs⟩ (ih hrest)

/-- What is read as squares is a list of strings. -/
theorem exists_tokens_of_squares {j : Json} {moves : List Square} (h : squares j = .ok moves) :
    ∃ tokens : List String, j = .array (tokens.map .string) := by
  obtain ⟨items, rfl, hdenoted⟩ := squares_eq_ok_iff.1 h
  suffices hitems : ∃ tokens : List String, items = tokens.map .string by
    obtain ⟨tokens, rfl⟩ := hitems
    exact ⟨tokens, rfl⟩
  clear h
  induction hdenoted with
  | nil => exact ⟨[], rfl⟩
  | cons hs _ ih =>
    obtain ⟨token, rfl, -⟩ := hs
    obtain ⟨tokens, rfl⟩ := ih
    exact ⟨token :: tokens, rfl⟩

theorem ofText?_text_of_squares {j : Json} {moves : List Square} (h : squares j = .ok moves) :
    Json.ofText? j.text = some j := by
  obtain ⟨tokens, rfl⟩ := exists_tokens_of_squares h
  exact Json.ofText?_text_strings tokens

end Decode

namespace Game

/-- The games that moves lead to. -/
inductive Reached : Game → Prop
  | new : Reached .new
  | play {g next : Game} {s : Square} (hg : Reached g) (h : g.play s = .ok next) : Reached next

theorem Reached.playAll {g last : Game} {moves : List Square} (hg : g.Reached)
    (h : g.playAll moves = .ok last) : last.Reached := by
  induction moves generalizing g with
  | nil =>
    cases h
    exact hg
  | cons s rest ih =>
    unfold Game.playAll at h
    split at h
    · cases h
    · rename_i next hplay
      exact ih (.play hg hplay) h

theorem Reached.ofMoves_history {g : Game} (h : g.Reached) : ofMoves g.history = .ok g := by
  induction h with
  | new => rfl
  | play _ hplay ih => exact ofMoves_history_of_play ih hplay

theorem reached_iff_ofMoves {g : Game} : g.Reached ↔ ofMoves g.history = .ok g :=
  ⟨Reached.ofMoves_history, Reached.new.playAll⟩

theorem Reached.onBoard {g : Game} (h : g.Reached) : ∀ s ∈ g.history, s.OnBoard := by
  have hreplayed : g.Obtained := .replayed h.ofMoves_history
  exact hreplayed.onBoard

/-- Writing the history of a game, reading the text in any spelling and playing it gives
the game again.  So a history belongs to one game at most, and the history of a game that
came from elsewhere tells whether moves lead to it. -/
theorem reached_rebuilt :
    (∀ g : Game, g.Reached → ∃ j, Square.listToJson g.history = .ok j ∧
      ∀ k, k = j ∨ j.Respelled k → Json.ofText? k.text = some k ∧
        ∃ moves, Decode.squares k = .ok moves ∧ ofMoves moves = .ok g) ∧
    (∀ g h : Game, g.Reached → h.Reached → g.history = h.history → g = h) ∧
    ∀ g : Game, g.Reached ↔ ofMoves g.history = .ok g := by
  refine ⟨fun g hg => ?_, fun g h hg hh hhistory => ?_, fun g => reached_iff_ofMoves⟩
  · obtain ⟨j, hj, hread⟩ := Decode.exists_squares_toJson hg.onBoard
    refine ⟨j, hj, fun k hk => ?_⟩
    have hk : Decode.squares k = .ok g.history := by
      rcases hk with rfl | hk
      · exact hread
      · exact Decode.squares_of_respelled hk hread
    exact ⟨Decode.ofText?_text_of_squares hk, g.history, hk, hg.ofMoves_history⟩
  · have hsame : ofMoves g.history = .ok h := hhistory ▸ hh.ofMoves_history
    exact Except.ok.inj (hg.ofMoves_history.symm.trans hsame)

/-- The mark that begins takes the first column. -/
def columnWin : List Square :=
  [⟨0, 0⟩, ⟨0, 1⟩, ⟨1, 0⟩, ⟨1, 1⟩, ⟨2, 0⟩]

/-- The first column in other spellings. -/
def respelledColumn : Json :=
  .array (["A1\n", " b1", "\u3000A2 ", "B2", "a3"].map .string)

theorem rebuilt_respelledColumn :
    ∃ g : Game, g.Reached ∧ g.history = columnWin ∧ g.outcome = .win .x ∧
      Json.ofText? respelledColumn.text = some respelledColumn ∧
      ∃ moves, Decode.squares respelledColumn = .ok moves ∧ ofMoves moves = .ok g := by
  have houtcome : (ofMoves columnWin).toOption.map Game.outcome = some (.win .x) := by
    decide +kernel
  have hwritten : Square.listToJson columnWin =
      .ok (.array (["a1", "b1", "a2", "b2", "a3"].map .string)) := rfl
  cases h : ofMoves columnWin with
  | error e =>
    rw [h] at houtcome
    cases houtcome
  | ok g =>
    rw [h] at houtcome
    have hg : g.Reached := Reached.new.playAll h
    have hhistory : g.history = columnWin := (played_of_ofMoves h).history
    obtain ⟨hrebuilt, -, -⟩ := reached_rebuilt
    obtain ⟨j, hj, hspelled⟩ := hrebuilt g hg
    rw [hhistory, hwritten] at hj
    cases hj
    refine ⟨g, hg, hhistory, Option.some.inj houtcome,
      hspelled respelledColumn (.inr ⟨_, _, rfl, rfl, ?_⟩)⟩
    refine .cons ⟨'a', 'A', ['1'], ?_⟩ (.cons ⟨'b', 'b', ['1'], ?_⟩ (.cons ⟨'a', 'A', ['2'], ?_⟩
      (.cons ⟨'b', 'B', ['2'], ?_⟩ (.cons ⟨'a', 'a', ['3'], ?_⟩ .nil)))) <;> decide

end Game
end Noughts
