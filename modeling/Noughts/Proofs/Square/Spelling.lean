import Noughts.Square.Token

/-!
Which squares have a text.

A square of the board is given by its name and any other by its coordinates, but
only after its column, and then its row, has been looked for among those of the
board.  Looking for the last word of 64 bits is a fault.  `Square.Spellable` says
which squares get past that: `text_eq_spelling` and `text_of_not_spellable` say what
text they have and that no other square has one.

A square of the board is read back from its text (`ofToken_of_text`).
-/

namespace Noughts
namespace Square

/-- No coordinate that is looked for is the last word.  The row is looked for
only if the board has the column. -/
def Spellable (s : Square) : Prop :=
  s.col + 1 < UInt64.size ∧ (s.col < 3 → s.row + 1 < UInt64.size)

instance (s : Square) : Decidable s.Spellable :=
  inferInstanceAs (Decidable (_ ∧ (_ → _)))

theorem OnBoard.spellable {s : Square} (h : s.OnBoard) : s.Spellable := by
  have hsize : 4 < UInt64.size := by decide
  have hrow := h.row_lt
  have hcol := h.col_lt
  exact ⟨by omega, fun _ => by omega⟩

theorem seek_of_ge {n : Nat} (h : 3 ≤ n) (hn : n + 1 < UInt64.size) : seek n = .ok none := by
  have hlt : ¬ n < 3 := by omega
  simp [seek, hn, hlt]

theorem seek_of_last {n : Nat} (h : ¬ n + 1 < UInt64.size) : seek n = .error .overflow := by
  simp [seek, h]

/-- What stands for a square, if anything does. -/
def spelling (s : Square) : List Char :=
  if h : s.OnBoard then [columnLetter ⟨s.col, h.col_lt⟩, rowDigit ⟨s.row, h.row_lt⟩]
  else s.coordinates

theorem spelling_of_onBoard {s : Square} (h : s.OnBoard) :
    s.spelling = [columnLetter ⟨s.col, h.col_lt⟩, rowDigit ⟨s.row, h.row_lt⟩] :=
  dif_pos h

theorem spelling_of_not_onBoard {s : Square} (h : ¬ s.OnBoard) : s.spelling = s.coordinates :=
  dif_neg h

/-- Off the board it takes only that the lookups come to an end. -/
theorem name_of_not_onBoard {s : Square} (h : s.Spellable) (hs : ¬ s.OnBoard) :
    s.name = .ok none := by
  by_cases hcol : s.col < 3
  · have hrow : 3 ≤ s.row := Nat.le_of_not_lt fun hrow => hs ⟨hrow, hcol⟩
    simp only [name, seek_of_lt hcol, seek_of_ge hrow (h.2 hcol)]
    rfl
  · simp only [name, seek_of_ge (Nat.le_of_not_lt hcol) h.1]
    rfl

theorem chars_eq_spelling {s : Square} (h : s.Spellable) : s.chars = .ok s.spelling := by
  by_cases hs : s.OnBoard
  · rw [chars_of_onBoard hs, spelling_of_onBoard hs]
  · rw [spelling_of_not_onBoard hs]
    simp only [chars, name_of_not_onBoard h hs]
    rfl

theorem chars_of_spellable {s : Square} (h : s.Spellable) : ∃ n, s.chars = .ok n :=
  ⟨_, chars_eq_spelling h⟩

theorem chars_of_not_spellable {s : Square} (h : ¬ s.Spellable) :
    s.chars = .error .overflow := by
  suffices hname : s.name = .error .overflow by
    simp only [chars, hname]
    rfl
  by_cases hcol : s.col + 1 < UInt64.size
  · have hlt : s.col < 3 := Decidable.byContradiction fun hge => h ⟨hcol, fun hlt => absurd hlt hge⟩
    have hrow : ¬ s.row + 1 < UInt64.size := fun hrow => h ⟨hcol, fun _ => hrow⟩
    simp only [name, seek_of_lt hlt, seek_of_last hrow]
    rfl
  · simp only [name, seek_of_last hcol]
    rfl

theorem text_eq_spelling {s : Square} (h : s.Spellable) :
    s.text = .ok (String.ofList s.spelling) := by
  simp only [text, chars_eq_spelling h]
  rfl

theorem text_of_spellable {s : Square} (h : s.Spellable) : ∃ t, s.text = .ok t :=
  ⟨_, text_eq_spelling h⟩

theorem text_of_not_spellable {s : Square} (h : ¬ s.Spellable) : s.text = .error .overflow := by
  simp only [text, chars_of_not_spellable h]
  rfl

theorem trim_name (c r : Fin 3) :
    Text.trim [columnLetter c, rowDigit r] = [columnLetter c, rowDigit r] := by
  revert c r
  decide

theorem ofToken_of_text {s : Square} (h : s.OnBoard) {t : String} (ht : s.text = .ok t) :
    ofToken t = .ok s := by
  rw [text_of_onBoard h] at ht
  cases ht
  rw [ofToken_eq_ok_iff, String.toList_ofList, trim_name]
  exact ofName?_name (name_of_onBoard h)

theorem ofToken_spelling {s : Square} (h : s.OnBoard) :
    ofToken (String.ofList s.spelling) = .ok s :=
  ofToken_of_text h (text_eq_spelling h.spellable)

theorem map_ofToken_spelling {squares : List Square} (h : ∀ s ∈ squares, s.OnBoard) :
    ((squares.map spelling).map String.ofList).map ofToken = squares.map .ok := by
  simp only [List.map_map, Function.comp_def]
  exact List.map_congr_left fun s hs => ofToken_spelling (h s hs)

end Square
end Noughts
