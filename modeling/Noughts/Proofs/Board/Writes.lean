import Mathlib.Data.List.Nodup
import Mathlib.Data.List.Perm.Basic
import Noughts.Proofs.Board.Claims

/-!
Boards under any sequence of writes.

`Board.write` is one write with its answer, and a write that is refused leaves the
board as it was.  Whatever is written in whatever order, a square keeps the first
mark that it gets (`Board.cell_writeAll`).  Everything else about a sequence of writes
follows from that: which of them are refused and why, and that writes to different
squares can change places (`Board.written_once`).

Writing nothing on an empty square succeeds and claims nothing, so a square may be
written successfully many times before its mark is there.
-/

namespace Noughts

/-- What is to be written, and where. -/
structure Write where
  square : Square
  value : Cell
deriving DecidableEq, Repr

/-- The mark that a write puts on a square, if it is its square and a mark. -/
def Write.markOn (s : Square) (w : Write) : Cell :=
  if w.square = s then w.value else none

namespace Board

/-- The answer to a write, which is the error if there is one, and the board after it. -/
def write (b : Board) (w : Write) : Option AccessError × Board :=
  match b.set w.square w.value with
  | .error e => (some e, b)
  | .ok next => (none, next)

/-- The board after all of the writes. -/
def writeAll (b : Board) (writes : List Write) : Board :=
  writes.foldl (fun b w => (b.write w).2) b

/-- The writes that succeed, in order. -/
def successes (b : Board) : List Write → List Write
  | [] => []
  | w :: rest =>
    if (b.write w).1 = none then w :: (b.write w).2.successes rest
    else (b.write w).2.successes rest

@[simp] theorem writeAll_nil (b : Board) : b.writeAll [] = b := rfl

@[simp] theorem writeAll_cons (b : Board) (w : Write) (rest : List Write) :
    b.writeAll (w :: rest) = (b.write w).2.writeAll rest := rfl

theorem writeAll_concat (b : Board) (writes : List Write) (w : Write) :
    b.writeAll (writes ++ [w]) = ((b.writeAll writes).write w).2 :=
  List.foldl_concat _ _ _ _

/-! ## One write -/

variable {b : Board} {w : Write} {s : Square}

theorem write_of_not_onBoard (h : ¬ w.square.OnBoard) :
    b.write w = (some (.offBoard w.square), b) := by
  rw [write, set_eq_error_iff.2 (.inl ⟨rfl, h⟩)]

theorem write_of_occupied (h : w.square.OnBoard) (hmark : b.cell w.square ≠ none) :
    b.write w = (some (.occupied w.square), b) := by
  rw [write, set_eq_error_iff.2 (.inr ⟨rfl, h, hmark⟩)]

theorem write_of_open (h : w.square.OnBoard) (hnone : b.cell w.square = none) :
    b.write w = (none, b.put w.square w.value) := by
  rw [write, set_eq_ok_iff.2 ⟨⟨h, hnone⟩, rfl⟩]

/-- A square that has a mark keeps it, and any other takes what is written on it. -/
theorem cell_write (hs : s.OnBoard) : (b.write w).2.cell s = (b.cell s).or (w.markOn s) := by
  by_cases hws : w.square = s
  · subst hws
    rw [Write.markOn, if_pos rfl]
    cases hcell : b.cell w.square with
    | none => rw [write_of_open hs hcell, cell_put, if_pos ⟨rfl, hs⟩, Option.none_or]
    | some m =>
      have hmark : b.cell w.square ≠ none := by simp [hcell]
      rw [write_of_occupied hs hmark, hcell, Option.some_or]
  · rw [Write.markOn, if_neg hws, Option.or_none]
    by_cases hboard : w.square.OnBoard
    · by_cases hcell : b.cell w.square = none
      · rw [write_of_open hboard hcell, cell_put, if_neg fun h => hws h.1.symm]
      · rw [write_of_occupied hboard hcell]
    · rw [write_of_not_onBoard hboard]

/-- Of two writes to different squares at most one reaches a given square. -/
theorem write_comm (b : Board) {v w : Write} (h : v.square ≠ w.square) :
    ((b.write v).2.write w).2 = ((b.write w).2.write v).2 := by
  refine ext_cell fun s hs => ?_
  rw [cell_write hs, cell_write hs, cell_write hs, cell_write hs, Option.or_assoc, Option.or_assoc]
  by_cases hv : v.square = s
  · have hw : ¬ w.square = s := fun hw => h (hv.trans hw.symm)
    rw [Write.markOn, Write.markOn, if_pos hv, if_neg hw, Option.or_none, Option.none_or]
  · rw [Write.markOn, if_neg hv, Option.or_none, Option.none_or]

/-! ## Many writes -/

theorem cell_writeAll (hs : s.OnBoard) (b : Board) (writes : List Write) :
    (b.writeAll writes).cell s =
      (b.cell s).or ((b.successes writes).findSome? (Write.markOn s)) := by
  induction writes generalizing b with
  | nil => simp [successes]
  | cons w rest ih =>
    rw [writeAll_cons, ih, cell_write hs, Option.or_assoc]
    by_cases hok : (b.write w).1 = none
    · rw [successes, if_pos hok, List.findSome?_cons]
      cases w.markOn s <;> rfl
    · rw [successes, if_neg hok]
      -- A write that is refused is off the board, or its square has a mark.
      by_cases hws : w.square = s
      · subst hws
        have hmark : b.cell w.square ≠ none := fun hnone => hok (by rw [write_of_open hs hnone])
        obtain ⟨m, hm⟩ := Option.ne_none_iff_exists'.1 hmark
        rw [hm, Option.some_or, Option.some_or]
      · rw [Write.markOn, if_neg hws, Option.none_or]

theorem cell_writeAll_ne_none_iff (hs : s.OnBoard) (b : Board) (writes : List Write) :
    (b.writeAll writes).cell s ≠ none ↔
      b.cell s ≠ none ∨ ∃ v ∈ b.successes writes, v.square = s ∧ v.value ≠ none := by
  rw [cell_writeAll hs, ne_eq, Option.or_eq_none_iff, List.findSome?_eq_none_iff]
  simp [Write.markOn, or_iff_not_imp_left]

/-- Writes to different squares can be made in any order. -/
theorem writeAll_perm {writes others : List Write} (h : writes.Perm others)
    (hsquares : (writes.map Write.square).Nodup) (b : Board) :
    b.writeAll others = b.writeAll writes := by
  refine (h.foldl_eq' (fun v hv w hw b => ?_) b).symm
  by_cases hvw : v = w
  · rw [hvw]
  · refine (write_comm b fun hsquare => hvw ?_)
    exact List.inj_on_of_nodup_map hsquares hv hw hsquare

/-! ## Write once -/

/-- What becomes of a write after some others.  It is refused for its square, or for a
mark that the square had or has got since, and a refused write changes nothing. -/
structure Answers (b : Board) (before : List Write) (w : Write) : Prop where
  offBoard : (b.writeAll before).set w.square w.value = .error (.offBoard w.square) ↔
    ¬ w.square.OnBoard
  occupied : (b.writeAll before).set w.square w.value = .error (.occupied w.square) ↔
    w.square.OnBoard ∧ (b.cell w.square ≠ none ∨
      ∃ v ∈ b.successes before, v.square = w.square ∧ v.value ≠ none)
  reason : ∀ e, (b.writeAll before).set w.square w.value = .error e →
    e = .offBoard w.square ∨ e = .occupied w.square
  unchanged : ∀ e, (b.writeAll before).set w.square w.value = .error e →
    b.writeAll (before ++ [w]) = b.writeAll before

/-- What holds of a board and of any writes that are made on it.  The answers are those
to each write after the ones before it, and the rest is about the board they leave. -/
structure WrittenOnce (b : Board) (writes : List Write) : Prop where
  answers : ∀ before w after, writes = before ++ w :: after → b.Answers before w
  first : ∀ s, s.OnBoard → (b.writeAll writes).get s =
    .ok ((b.cell s).or ((b.successes writes).findSome? (Write.markOn s)))
  count : (b.writeAll writes).claimed + (b.writeAll writes).openSquares.length = 9
  full : (b.writeAll writes).isFull = true ↔ (b.writeAll writes).openSquares = []
  listed : ∀ s v, (s, v) ∈ (b.writeAll writes).cells ↔ (b.writeAll writes).get s = .ok v
  ordered : ((b.writeAll writes).cells.map Prod.fst).Pairwise Square.Before
  reordered : ∀ others, writes.Perm others → (writes.map Write.square).Nodup →
    b.writeAll others = b.writeAll writes

theorem answers (b : Board) (before : List Write) (w : Write) : b.Answers before w where
  offBoard := by simp [set_eq_error_iff]
  occupied := by
    rw [set_eq_error_iff]
    constructor
    · rintro (⟨h, -⟩ | ⟨-, hs, hmark⟩)
      · cases h
      · exact ⟨hs, (cell_writeAll_ne_none_iff hs b before).1 hmark⟩
    · rintro ⟨hs, hmark⟩
      exact .inr ⟨rfl, hs, (cell_writeAll_ne_none_iff hs b before).2 hmark⟩
  reason e he := (set_eq_error_iff.1 he).imp And.left And.left
  unchanged e he := by rw [writeAll_concat, write, he]

theorem mem_cells_iff (b : Board) (s : Square) (v : Cell) :
    (s, v) ∈ b.cells ↔ b.get s = .ok v := by
  by_cases hs : s.OnBoard
  · simp [cells, get, hs, Square.mem_all]
  · simp [cells, get, hs, Square.mem_all]

theorem squares_cells (b : Board) : b.cells.map Prod.fst = Square.all := by
  rw [cells, List.map_map]
  exact List.map_id _

/-- Every square of every board is written once, whatever is written on it and however
often. -/
theorem written_once (b : Board) (writes : List Write) : b.WrittenOnce writes where
  answers before w _ _ := b.answers before w
  first s hs := by rw [get, if_pos hs, cell_writeAll hs]
  count := (b.writeAll writes).claimed_add_length_openSquares
  full := isFull_iff_openSquares
  listed := mem_cells_iff _
  ordered := by
    rw [squares_cells]
    exact Square.pairwise_before_all
  reordered _ h hsquares := writeAll_perm h hsquares b

/-- Writing nothing claims nothing, and the second mark comes too late. -/
example : (empty.writeAll [⟨⟨1, 2⟩, none⟩, ⟨⟨1, 2⟩, some .o⟩, ⟨⟨1, 2⟩, some .x⟩]).get ⟨1, 2⟩ =
    .ok (some .o) := by
  decide

end Board
end Noughts
