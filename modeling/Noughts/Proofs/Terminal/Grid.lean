import Noughts.Proofs.Terminal.Palettes
import Noughts.Proofs.Terminal.Wording

/-!
The grid of a drawing.

A field has one width, whatever is drawn in it, so the fields of a line and the bars that
close them are found by counting characters (`Drawing.drop_fields`, `Drawing.getElem?_bar`).
All lines below the first are of one length, and their bars stand below each other
(`Drawing.LinesUp`).

This takes that the glyphs leave room for the letters of the columns, which are a
character wide.  Only three empty glyphs do not (`Glyphs.linesUp_iff_exists_glyph`).
-/

namespace Noughts

namespace Drawing

/-- The lines of a drawing below the first, which do not depend on the mark to move. -/
def grid (palette : Palette) (b : Board) : List (List Char) :=
  [header palette.width, rule palette.width] ++
    (List.finRange 3).flatMap fun r => [gridRow palette b r, rule palette.width]

section Fields

variable {w : Nat} {texts : List (List Char)} (h : ∀ text ∈ texts, text.length ≤ w)
include h

theorem length_field : ∀ text ∈ texts, (Text.centre w text ++ ['|']).length = w + 1 := by
  intro text htext
  simp [Nat.max_eq_left (h text htext)]

theorem length_fields : (fields w texts).length = texts.length * (w + 1) :=
  Text.length_flatMap_of_length (length_field h)

theorem drop_fields {k : Nat} (hk : k < texts.length) :
    ∃ behind, (fields w texts).drop (k * (w + 1)) = Text.centre w texts[k] ++ '|' :: behind := by
  refine ⟨fields w (texts.drop (k + 1)), ?_⟩
  rw [fields, Text.drop_flatMap_of_length (length_field h), List.drop_eq_getElem_cons hk,
    List.flatMap_cons, List.append_assoc]
  rfl

theorem getElem?_bar {k : Nat} (hk : k < texts.length) :
    (fields w texts)[k * (w + 1) + w]? = some '|' := by
  obtain ⟨behind, hdrop⟩ := drop_fields h hk
  have hwidth : (Text.centre w texts[k]).length = w := by
    simp [Nat.max_eq_left (h _ (List.getElem_mem hk))]
  rw [← List.getElem?_drop, hdrop, List.getElem?_append_right (Nat.le_of_eq hwidth), hwidth]
  simp

end Fields

theorem length_rule (w : Nat) : (rule w).length = 4 + 3 * (w + 1) := by
  simp only [rule, List.length_append, List.length_replicate, List.length_cons, List.length_nil]
  omega

/-- The letters of the columns take a place each, however narrow the fields are. -/
theorem length_header (w : Nat) : (header w).length = 4 + 3 * (max w 1 + 1) := by
  have hfields : (fields w ((List.finRange 3).map fun c => [Square.columnLetter c])).length =
      3 * (max w 1 + 1) := by
    refine Text.length_flatMap_of_length (n := max w 1 + 1) ?_
    simp
  rw [header, List.length_append, hfields]
  rfl

section Palette

variable (palette : Palette) (b : Board)

theorem length_glyph_le (r : Fin 3) :
    ∀ text ∈ (List.finRange 3).map fun c => (palette.glyph (b.grid r c)).toList,
      text.length ≤ palette.width := by
  refine List.forall_mem_map.2 fun c _ => ?_
  rw [String.length_toList]
  exact palette.length_glyph_le _

theorem length_gridRow (r : Fin 3) :
    (gridRow palette b r).length = 4 + 3 * (palette.width + 1) := by
  rw [gridRow, List.length_append, length_fields (length_glyph_le palette b r)]
  simp

theorem length_of_mem_grid (hw : 0 < palette.width) :
    ∀ line ∈ grid palette b, line.length = 4 + 3 * (palette.width + 1) := by
  intro line hline
  simp only [grid, List.mem_append, List.mem_cons, List.not_mem_nil, or_false, List.mem_flatMap,
    List.mem_finRange, true_and] at hline
  rcases hline with (rfl | rfl) | ⟨r, rfl | rfl⟩
  · rw [length_header, Nat.max_eq_left hw]
  · exact length_rule _
  · exact length_gridRow palette b r
  · exact length_rule _

/-- The bar of the margin and those of the three fields. -/
theorem getElem?_bar_of_margin (margin : List Char) {w : Nat} {texts : List (List Char)}
    (h : ∀ text ∈ texts, text.length ≤ w) (hmargin : margin.length = 3) {k : Nat}
    (hk : k ≤ texts.length) :
    (margin ++ '|' :: fields w texts)[3 + k * (w + 1)]? = some '|' := by
  rw [List.getElem?_append_right (by omega), hmargin, Nat.add_sub_cancel_left]
  cases k with
  | zero => simp
  | succ k =>
    have hposition : (k + 1) * (w + 1) = k * (w + 1) + w + 1 := by rw [Nat.succ_mul, Nat.add_assoc]
    rw [hposition, List.getElem?_cons_succ]
    exact getElem?_bar h hk

theorem getElem?_header {w k : Nat} (hw : 0 < w) (hk : k ≤ 3) :
    (header w)[3 + k * (w + 1)]? = some '|' := by
  refine getElem?_bar_of_margin [' ', ' ', ' '] (List.forall_mem_map.2 fun c _ => hw) rfl ?_
  simpa using hk

theorem getElem?_gridRow (r : Fin 3) {k : Nat} (hk : k ≤ 3) :
    (gridRow palette b r)[3 + k * (palette.width + 1)]? = some '|' := by
  refine getElem?_bar_of_margin [' ', Square.rowDigit r, ' '] (length_glyph_le palette b r) rfl ?_
  simpa using hk

end Palette

/-- There are nine lines.  Those below the first have one length, and the line of the
column letters and the rows of the board have bars at the same places. -/
structure LinesUp (w : Nat) (text : List Char) : Prop where
  count : (Text.lines text).length = 9
  length : ∀ line ∈ (Text.lines text).drop 1, line.length = 4 + 3 * (w + 1)
  bars : ∀ i ∈ [1, 3, 5, 7], ∃ row, (Text.lines text)[i]? = some row ∧
    ∀ k ≤ 3, row[3 + k * (w + 1)]? = some '|'

section Lines

variable {palette : Palette} (h : ∀ c, '\n' ∉ (palette.glyph c).toList) (g : Game)
include h

theorem lines_board :
    Text.lines (board palette g) = playerLine g.player :: grid palette g.board := by
  refine Text.lines_intercalate (fun line hline => ?_) (List.cons_ne_nil _ _)
  obtain ⟨c, rest, rfl, -, hnewline⟩ := opening_of_mem_lines h g hline
  exact hnewline

theorem linesUp_board (hw : 0 < palette.width) : LinesUp palette.width (board palette g) where
  count := by
    rw [lines_board h]
    rfl
  length := by
    rw [lines_board h]
    exact length_of_mem_grid palette g.board hw
  bars := by
    rw [lines_board h]
    simp only [List.forall_mem_cons, List.not_mem_nil, false_imp_iff, implies_true, and_true]
    exact ⟨⟨_, rfl, fun k => getElem?_header hw⟩,
      ⟨_, rfl, fun k => getElem?_gridRow palette g.board 0⟩,
      ⟨_, rfl, fun k => getElem?_gridRow palette g.board 1⟩,
      ⟨_, rfl, fun k => getElem?_gridRow palette g.board 2⟩⟩

/-- In fields without width the letters are wider than the rules. -/
theorem not_linesUp_board (hw : palette.width = 0) : ¬ LinesUp palette.width (board palette g) := by
  intro hlines
  have hheader : header palette.width ∈ (Text.lines (board palette g)).drop 1 := by
    rw [lines_board h]
    exact List.mem_cons_self
  have hlength := hlines.length _ hheader
  rw [length_header, hw] at hlength
  omega

end Lines

end Drawing

namespace Glyphs

variable {glyphs : Glyphs}

/-- The drawing of a game with any glyphs. -/
def drawing (glyphs : Glyphs) (g : Game) : Except Fault (List Char) :=
  glyphs.withPalette fun palette => Drawing.board palette g

theorem width_lt_of_lengths (h : ∀ c, (glyphs.glyph c).length < 65536) : glyphs.width < 65536 := by
  have hx : glyphs.x.length < 65536 := h (some .x)
  have ho : glyphs.o.length < 65536 := h (some .o)
  have hempty : glyphs.empty.length < 65536 := h none
  unfold width
  omega

theorem width_pos_iff : 0 < glyphs.width ↔ ∃ c, glyphs.glyph c ≠ "" := by
  constructor
  · intro h
    by_contra hnone
    simp only [not_exists, not_not] at hnone
    have hx : glyphs.x = "" := hnone (some .x)
    have ho : glyphs.o = "" := hnone (some .o)
    have hempty : glyphs.empty = "" := hnone none
    simp [width, hx, ho, hempty] at h
  · rintro ⟨c, hc⟩
    have hpos : 0 < (glyphs.glyph c).length :=
      Nat.pos_of_ne_zero fun hzero => hc (String.length_eq_zero_iff.1 hzero)
    exact Nat.lt_of_lt_of_le hpos (glyphs.length_glyph_le c)

/-- Glyphs that break no line and fit in a field give nine lines, which line up exactly if
there is a glyph that is not empty. -/
theorem linesUp_iff_exists_glyph (hnewline : ∀ c, '\n' ∉ (glyphs.glyph c).toList)
    (hlength : ∀ c, (glyphs.glyph c).length < 65536) (g : Game) :
    ∃ text, glyphs.drawing g = .ok text ∧ (Text.lines text).length = 9 ∧
      (Drawing.LinesUp glyphs.width text ↔ ∃ c, glyphs.glyph c ≠ "") := by
  obtain ⟨palette, rfl, hact⟩ := exists_palette (width_lt_of_lengths hlength)
  refine ⟨_, hact _, ?_, ?_⟩
  · rw [Drawing.lines_board hnewline]
    rfl
  · rw [← width_pos_iff]
    constructor
    · intro hlines
      refine Nat.pos_of_ne_zero fun hw => ?_
      exact Drawing.not_linesUp_board hnewline g hw hlines
    · exact Drawing.linesUp_board hnewline g

/-- Glyphs of three lengths, one of them made of what looks like the grid. -/
def unevenGlyphs : Glyphs :=
  { x := "é", o := "|--|", empty := "" }

theorem linesUp_unevenGlyphs :
    (∀ c, '\n' ∉ (unevenGlyphs.glyph c).toList) ∧ (∀ c, (unevenGlyphs.glyph c).length < 65536) ∧
      ∃ text, unevenGlyphs.drawing (Game.new.after ⟨1, 2⟩ (Board.empty.put ⟨1, 2⟩ (some .o))) =
        .ok text ∧ Drawing.LinesUp 4 text := by
  have hnewline : ∀ c, '\n' ∉ (unevenGlyphs.glyph c).toList := by
    rintro (_ | _ | _) <;> decide
  have hlength : ∀ c, (unevenGlyphs.glyph c).length < 65536 := by
    rintro (_ | _ | _) <;> decide
  obtain ⟨text, htext, -, hlines⟩ := linesUp_iff_exists_glyph hnewline hlength _
  exact ⟨hnewline, hlength, text, htext, hlines.2 ⟨some .x, by decide⟩⟩

def blankGlyphs : Glyphs :=
  { x := "", o := "", empty := "" }

/-- The letters alone make the second line longer than the others. -/
theorem not_linesUp_blankGlyphs :
    (∀ c, '\n' ∉ (blankGlyphs.glyph c).toList) ∧ (∀ c, (blankGlyphs.glyph c).length < 65536) ∧
      ∃ text, blankGlyphs.drawing .new = .ok text ∧ ¬ Drawing.LinesUp blankGlyphs.width text := by
  have hnewline : ∀ c, '\n' ∉ (blankGlyphs.glyph c).toList := by
    rintro (_ | _ | _) <;> decide
  have hlength : ∀ c, (blankGlyphs.glyph c).length < 65536 := by
    rintro (_ | _ | _) <;> decide
  obtain ⟨palette, hpalette, hact⟩ := exists_palette (width_lt_of_lengths hlength)
  refine ⟨hnewline, hlength, _, hact _, ?_⟩
  rw [← hpalette] at hnewline ⊢
  exact Drawing.not_linesUp_board hnewline .new (by rw [hpalette]; rfl)

end Glyphs
end Noughts
