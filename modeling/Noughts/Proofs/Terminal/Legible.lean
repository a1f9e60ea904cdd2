import Noughts.Proofs.Terminal.Grid
import Noughts.Proofs.Terminal.Transcript

/-!
A drawing tells which game was drawn.

Glyphs can hold newlines and bars, so the lines of a drawing do not say where its fields
are.  But the first line has the same length for both marks and all lines below it are of
one length (`Drawing.length_board`), so a field is found by counting characters, and there
stands the glyph of its square (`Drawing.take_drop_board`).  Glyphs that differ in their
fields thus give the board away, the first line the mark to move, and what follows the
drawing the outcome (`Glyphs.legible_iff_width`).
-/

namespace Noughts

namespace Glyphs

/-- A glyph as it stands in its field. -/
def field (glyphs : Glyphs) (c : Cell) : List Char :=
  Text.centre glyphs.width (glyphs.glyph c).toList

/-- No two glyphs look alike in their fields. -/
def Distinct (glyphs : Glyphs) : Prop :=
  Function.Injective glyphs.field

theorem length_field (glyphs : Glyphs) (c : Cell) : (glyphs.field c).length = glyphs.width := by
  rw [field, Text.length_centre, String.length_toList, Nat.max_eq_left (glyphs.length_glyph_le c)]

theorem mem_field_iff {glyphs : Glyphs} {c : Cell} {char : Char} (h : char ≠ ' ') :
    char ∈ glyphs.field c ↔ char ∈ (glyphs.glyph c).toList := by
  simp [field, Text.centre, List.mem_replicate, h]

end Glyphs

namespace Drawing

/-- The number of characters before the field of a square, with fields of width `w`. -/
def fieldStart (w : Nat) (r c : Fin 3) : Nat :=
  10 + (2 + 2 * r.val) * (4 + 3 * (w + 1) + 1) + (4 + c.val * (w + 1))

theorem fieldStart_le (w : Nat) (r c : Fin 3) :
    fieldStart w r c + w + 1 ≤ 10 + 8 * (4 + 3 * (w + 1) + 1) := by
  have hrow : (2 + 2 * r.val) * (4 + 3 * (w + 1) + 1) ≤ 6 * (4 + 3 * (w + 1) + 1) :=
    Nat.mul_le_mul_right _ (by omega)
  have hcol : c.val * (w + 1) ≤ 2 * (w + 1) := Nat.mul_le_mul_right _ (by omega)
  unfold fieldStart
  omega

theorem playerLine_injective : Function.Injective playerLine := fun m n h => by
  unfold playerLine at h
  rw [List.append_cancel_left_eq] at h
  exact Mark.text_injective (String.toList_inj.1 h)

/-- What follows a drawing starts on a line of its own, or there is nothing. -/
theorem outcome_of_ending_eq {o o' : Outcome}
    (h : (if o.isTerminal then '\n' :: o.text.toList else []) =
      (if o'.isTerminal then '\n' :: o'.text.toList else [])) : o = o' := by
  cases ho : o.isTerminal <;> cases ho' : o'.isTerminal <;> rw [ho, ho'] at h
  · rw [Outcome.isTerminal_eq_false_iff.1 ho, Outcome.isTerminal_eq_false_iff.1 ho']
  · cases h
  · cases h
  · exact Outcome.text_injective (String.toList_inj.1 (List.cons.inj h).2)

section Board

variable {palette : Palette} (hw : 0 < palette.width)

theorem board_append_newline (palette : Palette) (g : Game) :
    board palette g ++ ['\n'] =
      (playerLine g.player ++ ['\n']) ++ (grid palette g.board).flatMap (· ++ ['\n']) :=
  Text.intercalate_append_newline (List.cons_ne_nil _ _)

theorem length_playerLine (m : Mark) : (playerLine m ++ ['\n']).length = 10 := by
  cases m <;> rfl

theorem player_of_board_eq {g g' : Game} (h : board palette g = board palette g') :
    g.player = g'.player := by
  have hlines : board palette g ++ ['\n'] = board palette g' ++ ['\n'] := by rw [h]
  rw [board_append_newline, board_append_newline] at hlines
  have hlength := (length_playerLine g.player).trans (length_playerLine g'.player).symm
  exact playerLine_injective (List.append_cancel_right (List.append_inj hlines hlength).1)

theorem exists_drop_grid (palette : Palette) (b : Board) (r : Fin 3) :
    ∃ below, (grid palette b).drop (2 + 2 * r.val) = gridRow palette b r :: below := by
  have hrows : ∀ r : Fin 3, r = 0 ∨ r = 1 ∨ r = 2 := by decide
  obtain rfl | rfl | rfl := hrows r
  · exact ⟨_, rfl⟩
  · exact ⟨_, rfl⟩
  · exact ⟨_, rfl⟩

theorem exists_drop_gridRow (palette : Palette) (b : Board) (r c : Fin 3) :
    ∃ behind, (gridRow palette b r).drop (4 + c.val * (palette.width + 1)) =
      palette.field (b.grid r c) ++ behind := by
  have hc : c.val <
      ((List.finRange 3).map fun c => (palette.glyph (b.grid r c)).toList).length := by
    simp
  obtain ⟨behind, hdrop⟩ := drop_fields (length_glyph_le palette b r) hc
  refine ⟨'|' :: behind, ?_⟩
  have hmargin : (gridRow palette b r).drop 4 =
      fields palette.width ((List.finRange 3).map fun c => (palette.glyph (b.grid r c)).toList) :=
    rfl
  rw [← List.drop_drop, hmargin, hdrop, List.getElem_map, List.getElem_finRange]
  rfl

theorem le_length_gridRow (palette : Palette) (b : Board) (r c : Fin 3) :
    4 + c.val * (palette.width + 1) ≤ (gridRow palette b r).length := by
  have hcol : c.val * (palette.width + 1) ≤ 3 * (palette.width + 1) :=
    Nat.mul_le_mul_right _ (Nat.le_of_lt c.isLt)
  rw [length_gridRow]
  omega

include hw

theorem length_of_mem_grid_newline (b : Board) : ∀ line ∈ grid palette b,
    (line ++ ['\n']).length = 4 + 3 * (palette.width + 1) + 1 := by
  intro line hline
  rw [List.length_append, length_of_mem_grid palette b hw line hline]
  rfl

theorem length_board (g : Game) :
    (board palette g).length + 1 = 10 + 8 * (4 + 3 * (palette.width + 1) + 1) := by
  have hlength := congrArg List.length (board_append_newline palette g)
  rw [List.length_append, List.length_append, length_playerLine,
    Text.length_flatMap_of_length (length_of_mem_grid_newline hw g.board)] at hlength
  exact hlength

theorem exists_drop_board (g : Game) (r : Fin 3) :
    ∃ behind, (board palette g ++ ['\n']).drop
        (10 + (2 + 2 * r.val) * (4 + 3 * (palette.width + 1) + 1)) =
      gridRow palette g.board r ++ behind := by
  obtain ⟨below, hbelow⟩ := exists_drop_grid palette g.board r
  refine ⟨['\n'] ++ below.flatMap (· ++ ['\n']), ?_⟩
  rw [board_append_newline, ← List.drop_drop, List.drop_left' (length_playerLine _),
    Text.drop_flatMap_of_length (length_of_mem_grid_newline hw g.board), hbelow, List.flatMap_cons,
    List.append_assoc]

/-- The characters at the place of a field are the glyph of the square. -/
theorem take_drop_board (g : Game) (r c : Fin 3) :
    ((board palette g).drop (fieldStart palette.width r c)).take palette.width =
      palette.field (g.board.grid r c) := by
  obtain ⟨below, hbelow⟩ := exists_drop_board hw g r
  obtain ⟨behind, hbehind⟩ := exists_drop_gridRow palette g.board r c
  have hfield := palette.length_field (g.board.grid r c)
  have hwhole : (board palette g ++ ['\n']).drop (fieldStart palette.width r c) =
      palette.field (g.board.grid r c) ++ (behind ++ below) := by
    rw [fieldStart, ← List.drop_drop, hbelow,
      List.drop_append_of_le_length (le_length_gridRow palette g.board r c), hbehind,
      List.append_assoc]
  have hlength := length_board hw g
  have hle := fieldStart_le palette.width r c
  rw [List.drop_append_of_le_length (by omega)] at hwhole
  have htake := congrArg (List.take palette.width) hwhole
  rw [List.take_append_of_le_length (by rw [List.length_drop]; omega),
    List.take_left' hfield] at htake
  exact htake

theorem board_of_board_eq (hdistinct : palette.Distinct) {g g' : Game}
    (h : board palette g = board palette g') : g.board = g'.board := by
  have hcell (r c : Fin 3) :
      g.board.cell (Square.ofFin r c) = g'.board.cell (Square.ofFin r c) := by
    have hfield := take_drop_board hw g r c
    rw [h, take_drop_board hw] at hfield
    calc g.board.cell (Square.ofFin r c)
      _ = g.board.grid r c := g.board.cell_ofFin r c
      _ = g'.board.grid r c := (hdistinct hfield).symm
      _ = g'.board.cell (Square.ofFin r c) := (g'.board.cell_ofFin r c).symm
  exact Board.ext_cell fun s hs => hcell ⟨s.row, hs.row_lt⟩ ⟨s.col, hs.col_lt⟩

theorem board_eq_of_screen_eq {g g' : Game} (h : screen palette g = screen palette g') :
    board palette g = board palette g' ∧ g.outcome = g'.outcome := by
  have hlength := (length_board hw g).trans (length_board hw g').symm
  have hshown := List.append_cancel_right h
  obtain ⟨hboard, hending⟩ := List.append_inj hshown (Nat.succ.inj hlength)
  exact ⟨hboard, outcome_of_ending_eq hending⟩

end Board
end Drawing

namespace Glyphs

variable {glyphs : Glyphs}

/-- What is shown of a game with any glyphs. -/
def screen (glyphs : Glyphs) (g : Game) : Except Fault (List Char) :=
  glyphs.withPalette fun palette => Drawing.screen palette g

/-- Every game can be drawn.  The glyph of each square stands at the place of its field,
and what is shown of two games is the same only if the games have the same board, the same
mark to move and the same outcome. -/
structure Legible (glyphs : Glyphs) : Prop where
  fields : ∀ g : Game, ∃ text, glyphs.drawing g = .ok text ∧ ∀ r c,
    (text.drop (Drawing.fieldStart glyphs.width r c)).take glyphs.width =
      glyphs.field (g.board.cell (Square.ofFin r c))
  game : ∀ g g' : Game, glyphs.screen g = glyphs.screen g' →
    g.board = g'.board ∧ g.player = g'.player ∧ g.outcome = g'.outcome

theorem Distinct.width_pos (h : glyphs.Distinct) : 0 < glyphs.width := by
  refine Nat.pos_of_ne_zero fun hw => ?_
  have hempty (c : Cell) : glyphs.field c = [] :=
    List.eq_nil_of_length_eq_zero ((glyphs.length_field c).trans hw)
  have hsame : glyphs.field (some .x) = glyphs.field none := by rw [hempty, hempty]
  cases h hsame

theorem legible_of_narrow (hdistinct : glyphs.Distinct) (h : glyphs.width < 65536) :
    glyphs.Legible := by
  have hw := hdistinct.width_pos
  obtain ⟨palette, rfl, hact⟩ := exists_palette h
  refine ⟨fun g => ⟨_, hact _, fun r c => ?_⟩, fun g g' hsame => ?_⟩
  · rw [Drawing.take_drop_board hw]
    exact congrArg palette.field (g.board.cell_ofFin r c).symm
  · rw [screen, screen, hact, hact] at hsame
    obtain ⟨hboard, houtcome⟩ := Drawing.board_eq_of_screen_eq hw (Except.ok.inj hsame)
    exact ⟨Drawing.board_of_board_eq hw hdistinct hboard, Drawing.player_of_board_eq hboard,
      houtcome⟩

theorem not_legible_of_wide (h : ¬ glyphs.width < 65536) : ¬ glyphs.Legible := by
  intro hlegible
  obtain ⟨text, htext, -⟩ := hlegible.fields .new
  rw [drawing, withPalette_of_wide h] at htext
  cases htext

/-- Glyphs that are told apart in their fields make every drawing legible, exactly if they
fit in a field.  Wider ones show the same fault for all games. -/
theorem legible_iff_width (hdistinct : glyphs.Distinct) :
    (glyphs.Legible ↔ glyphs.width < 65536) ∧
      (¬ glyphs.width < 65536 → ∀ g,
        glyphs.drawing g = .error .tooWide ∧ glyphs.screen g = .error .tooWide) := by
  refine ⟨⟨fun hlegible => ?_, legible_of_narrow hdistinct⟩, fun h g => ?_⟩
  · exact Decidable.byContradiction fun h => not_legible_of_wide h hlegible
  · exact ⟨withPalette_of_wide h _, withPalette_of_wide h _⟩

/-- Glyphs that look like the grid around them. -/
def gridGlyphs : Glyphs :=
  { x := "|", o := "\n|", empty := "" }

theorem legible_gridGlyphs : gridGlyphs.Distinct ∧ gridGlyphs.Legible := by
  have hdistinct : gridGlyphs.Distinct := by
    rintro (_ | _ | _) (_ | _ | _) <;> decide
  exact ⟨hdistinct, (legible_iff_width hdistinct).1.2 (by decide)⟩

theorem distinct_wideGlyphs : Terminal.wideGlyphs.Distinct := by
  have hglyph : (Terminal.wideGlyphs.glyph (some .x)).toList = List.replicate 65536 'X' :=
    String.toList_ofList
  have hcross (c : Cell) : 'X' ∈ Terminal.wideGlyphs.field c ↔ c = some .x := by
    rw [mem_field_iff (by decide)]
    rcases c with _ | _ | _
    · decide
    · rw [hglyph, List.mem_replicate]
      decide
    · decide
  have hnought (c : Cell) : 'O' ∈ Terminal.wideGlyphs.field c ↔ c = some .o := by
    rw [mem_field_iff (by decide)]
    rcases c with _ | _ | _
    · decide
    · rw [hglyph, List.mem_replicate]
      decide
    · decide
  intro c d h
  have hx : c = some .x ↔ d = some .x := by rw [← hcross, ← hcross, h]
  have ho : c = some .o ↔ d = some .o := by rw [← hnought, ← hnought, h]
  clear h
  rcases c with _ | _ | _ <;> rcases d with _ | _ | _ <;> simp at hx ho ⊢

/-- The empty board alone is too wide to be drawn. -/
theorem not_legible_wide_cross :
    Terminal.wideGlyphs.Distinct ∧ Terminal.wideGlyphs.drawing .new = .error .tooWide ∧
      ¬ Terminal.wideGlyphs.Legible :=
  ⟨distinct_wideGlyphs, withPalette_of_wide Terminal.not_width_wideGlyphs_lt _,
    not_legible_of_wide Terminal.not_width_wideGlyphs_lt⟩

end Glyphs
end Noughts
