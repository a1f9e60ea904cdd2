import Noughts.Command
import Noughts.Proofs.Session.Simulation
import Noughts.Proofs.Square.Spelling
import Noughts.Proofs.Terminal.Lines
import Noughts.Proofs.Terminal.Palettes
import Noughts.Session.Script

/-!
The terminal plays its lines as a script.

On channels that never fail a terminal is a script in disguise: its lines are the
items, and what the players see is the text of the calls that a script would log,
in order (`Terminal.Mirrors`).  The two hosts are alike under that relation
(`Terminal.alike_script`), so a whole run on a terminal is the run over the script
of its lines, and its output the text of that run's calls.

Drawing takes a palette.  Glyphs with a field of 2^16 characters or more make
none, and with them nothing is played at all (`Terminal.playsLines_iff_width`).
-/

namespace Noughts

/-- A token names a square of the board or none at all, so off the board is not
what a token is refused for. -/
theorem Game.flaw_of_playToken {g : Game} {token : String} {f : Flaw}
    (h : g.playToken token = .error (.refused (.flawed f))) :
    (∃ e, f = .unreadable e) ∨ ∃ s, s.OnBoard ∧ f = .occupied s := by
  unfold playToken at h
  cases ht : Square.ofToken token with
  | error e =>
    rw [ht] at h
    cases h
    exact .inl ⟨e, rfl⟩
  | ok s =>
    have hboard := Square.onBoard_of_ofToken ht
    simp only [ht] at h
    cases hover : g.isOver with
    | true =>
      rw [play_of_isOver hover (Square.text_of_onBoard hboard)] at h
      cases h
    | false =>
      cases hcell : g.board.cell s with
      | none =>
        rw [play_of_mem_openSquares hover (Board.mem_openSquares.2 ⟨hboard, hcell⟩)] at h
        split at h
        · cases h
        · split at h <;> cases h
      | some m =>
        rw [play_of_occupied hover hcell] at h
        cases h
        exact .inr ⟨s, hboard, rfl⟩

namespace Drawing

theorem exists_refusal {g : Game} {token : String} {f : Flaw}
    (h : g.playToken token = .error (.refused (.flawed f))) :
    ∃ text, refusal (.flawed f) = .ok text := by
  rcases Game.flaw_of_playToken h with ⟨e, rfl⟩ | ⟨s, hs, rfl⟩
  · exact ⟨_, rfl⟩
  · simp only [refusal, Refusal.report, Flaw.report, Square.text_of_onBoard hs]
    exact ⟨_, rfl⟩

/-- What a question for a move says, if it can be asked. -/
def offer (squares : List Square) : List Char :=
  "select location [".toList ++ [',', ' '].intercalate (squares.map Square.spelling) ++
    "]: ".toList

theorem prompt_of_spellable {squares : List Square} (h : ∀ s ∈ squares, s.Spellable) :
    prompt squares = .ok (offer squares) := by
  have hchars : squares.mapM Square.chars = .ok (squares.map Square.spelling) := by
    induction squares with
    | nil => rfl
    | cons s rest ih =>
      obtain ⟨hs, hrest⟩ := List.forall_mem_cons.1 h
      rw [List.mapM_cons, Square.chars_eq_spelling hs, ih hrest]
      rfl
  simp only [prompt, hchars]
  rfl

theorem exists_prompt {squares : List Square} (h : ∀ s ∈ squares, s.Spellable) :
    ∃ text, prompt squares = .ok text :=
  ⟨_, prompt_of_spellable h⟩

/-- The squares are spelled in order, and all those before the first that can not be
spelled have a name. -/
theorem prompt_of_not_spellable {squares : List Square} (h : ¬ ∀ s ∈ squares, s.Spellable) :
    prompt squares = .error .overflow := by
  have hnames : squares.mapM Square.chars = .error .overflow := by
    induction squares with
    | nil => exact absurd (List.forall_mem_nil _) h
    | cons s rest ih =>
      by_cases hs : s.Spellable
      · obtain ⟨n, hn⟩ := Square.chars_of_spellable hs
        have hrest := ih fun hall => h (List.forall_mem_cons.2 ⟨hs, hall⟩)
        simp only [List.mapM_cons, hn, hrest]
        rfl
      · simp only [List.mapM_cons, Square.chars_of_not_spellable hs]
        rfl
  simp only [prompt, hnames]
  rfl

end Drawing

namespace Terminal

/-- The text of a call.  A game is drawn, with the result below it once there is
one, and a refusal gives its reason and asks again. -/
def spoken (palette : Palette) : Event → Except Fault (List Char)
  | .asked offered => Drawing.prompt offered
  | .displayed g =>
    .ok (Drawing.board palette g ++ (if g.isOver then '\n' :: g.outcome.text.toList else []) ++
      ['\n'])
  | .declined e => do return (← e.report).message.toList ++ ". Please enter again\n".toList

/-- The output is the text of the calls, in order, as bytes. -/
def Says (palette : Palette) (calls : List Event) (output : List UInt8) : Prop :=
  ∃ texts, calls.mapM (spoken palette) = .ok texts ∧ output = Text.encode texts.flatten

theorem Says.snoc {palette : Palette} {calls : List Event} {output : List UInt8} {e : Event}
    {text : List Char} (h : Says palette calls output) (he : spoken palette e = .ok text) :
    Says palette (calls ++ [e]) (output ++ Text.encode text) := by
  obtain ⟨texts, htexts, rfl⟩ := h
  refine ⟨texts ++ [text], ?_, by simp⟩
  simp only [List.mapM_append, List.mapM_cons, List.mapM_nil, htexts, he]
  rfl

/-- The script that the terminal plays out: its lines are the items to come, and its
output is the text of the calls so far. -/
structure Mirrors (palette : Palette) (t : Terminal) (s : Script) : Prop where
  items : s.items = (LineReader.lines t.input).map lineToken
  prompts : t.prompts = .reliable
  drawings : t.drawings = .reliable
  output : Says palette s.log t.output

namespace Mirrors

variable {palette : Palette} {t : Terminal} {s : Script}

theorem writeDrawing (h : Mirrors palette t s) {e : Event} {text : List Char}
    (he : spoken palette e = .ok text) : Mirrors palette (t.writeDrawing text) (s.note e) where
  items := h.items
  prompts := h.prompts
  drawings := by
    show t.drawings.after _ = _
    rw [h.drawings, Channel.after_reliable]
  output := by
    rw [output_writeDrawing, h.drawings, Channel.taken_reliable, List.take_length]
    exact h.output.snoc he

theorem writePrompt (h : Mirrors palette t s) {e : Event} {text : List Char}
    (he : spoken palette e = .ok text) : Mirrors palette (t.writePrompt text) (s.note e) where
  items := h.items
  prompts := by
    show t.prompts.after _ = _
    rw [h.prompts, Channel.after_reliable]
  drawings := h.drawings
  output := by
    rw [output_writePrompt, h.prompts, Channel.taken_reliable, List.take_length]
    exact h.output.snoc he

/-- A question on a reliable channel is written, and then a line is read. -/
theorem ask (h : Mirrors palette t s) {squares : List Square} {text : List Char}
    (htext : Drawing.prompt squares = .ok text) :
    (t.ask squares).1 = (s.ask squares).1 ∧
      Mirrors palette (t.ask squares).2 (s.ask squares).2 := by
  have hasked : Mirrors palette (t.writePrompt text) (s.note (.asked squares)) :=
    h.writePrompt htext
  have hquestion : t.question text = (t.writePrompt text).readLine := by
    rw [question, h.prompts, Channel.failure?_reliable]
  have hitems := h.items
  simp only [Terminal.ask, htext, hquestion, readLine]
  have hinput : (t.writePrompt text).input = t.input := rfl
  rw [hinput]
  cases hline : LineReader.nextLine t.input with
  | none =>
    rw [LineReader.lines_of_none hline] at hitems
    simp only [Script.ask, hitems, List.map_nil]
    refine ⟨rfl, ?_, hasked.prompts, hasked.drawings, hasked.output⟩
    rw [hinput, LineReader.lines_of_none hline, List.map_nil]
  | some split =>
    obtain ⟨line, rest⟩ := split
    rw [LineReader.lines_of_some hline] at hitems
    simp only [Script.ask, hitems, List.map_cons]
    exact ⟨trivial, rfl, hasked.prompts, hasked.drawings, hasked.output⟩

end Mirrors

theorem alike_script (palette : Palette) :
    (host palette).Alike Script.host (Mirrors palette) where
  ask t s g h := by
    have hspell : ∀ sq ∈ g.openSquares, sq.Spellable := fun sq hsq =>
      (Board.mem_openSquares.1 hsq).1.spellable
    obtain ⟨text, htext⟩ := Drawing.exists_prompt hspell
    exact h.ask htext
  display t s g h := h.writeDrawing rfl
  decline t s g token f h hplay := by
    obtain ⟨text, htext⟩ := Drawing.exists_refusal hplay
    have hdecline : t.decline (.flawed f) = .ok (t.writeDrawing text) := by
      simp only [Terminal.decline, htext]
      rfl
    exact ⟨_, _, hdecline, rfl, h.writeDrawing htext⟩

/-! ## Whole runs -/

/-- The program with any glyphs, on channels that never fail. -/
def play (glyphs : Glyphs) (input : List UInt8) :
    Except Fault (Except SessionError Outcome × Session Terminal) := do
  return Command.playTerminal (← glyphs.toPalette) (.fresh input .reliable .reliable)

/-- The run over the script that has the token of each line as an item. -/
def scripted (lines : List (List UInt8)) : Except SessionError Outcome × Session Script :=
  (Session.start (Script.ofItems (lines.map lineToken))).run Script.host

/-- A run on a terminal comes to what the run over its lines does, and leaves the
lines that one leaves.  Its output is the text of the calls of that run. -/
structure PlaysScript (palette : Palette) (lines : List (List UInt8))
    (r : Except SessionError Outcome × Session Terminal) : Prop where
  result : r.1 = (scripted lines).1
  phase : r.2.phase = (scripted lines).2.phase
  game : r.2.game = (scripted lines).2.game
  output : Says palette (scripted lines).2.world.log r.2.world.output
  input : (scripted lines).2.world.items = (LineReader.lines r.2.world.input).map lineToken

/-- What playing an input should come to, whatever the glyphs. -/
def PlaysLines (glyphs : Glyphs) (input : List UInt8) : Prop :=
  ∃ palette lines r, glyphs.toPalette = .ok palette ∧ LineReader.Split input lines ∧
    play glyphs input = .ok r ∧ PlaysScript palette lines r

theorem mirrors_fresh (palette : Palette) (input : List UInt8) :
    Mirrors palette (.fresh input .reliable .reliable)
      (.ofItems ((LineReader.lines input).map lineToken)) where
  items := rfl
  prompts := rfl
  drawings := rfl
  output := ⟨[], rfl, rfl⟩

theorem playsScript_lines (palette : Palette) (input : List UInt8) :
    PlaysScript palette (LineReader.lines input)
      (Command.playTerminal palette (.fresh input .reliable .reliable)) := by
  have hstart : (Session.start (Terminal.fresh input .reliable .reliable)).Together
      (Mirrors palette) (Session.start (.ofItems ((LineReader.lines input).map lineToken))) :=
    ⟨rfl, rfl, mirrors_fresh palette input⟩
  obtain ⟨hresult, hend⟩ := hstart.run (alike_script palette)
  exact ⟨hresult, hend.phase, hend.game, hend.world.output, hend.world.items⟩

theorem play_of_wide {glyphs : Glyphs} (h : ¬ glyphs.width < 65536) (input : List UInt8) :
    play glyphs input = .error .tooWide :=
  Glyphs.withPalette_of_wide h _

theorem not_playsLines_of_wide {glyphs : Glyphs} (h : ¬ glyphs.width < 65536)
    (input : List UInt8) : ¬ PlaysLines glyphs input := by
  rintro ⟨palette, lines, r, -, -, hplay, -⟩
  rw [play_of_wide h] at hplay
  cases hplay

/-- Playing any input is playing the script of its lines, with the text of the calls
for output, exactly if a field of the drawing has less than 2^16 characters.  Wider
glyphs end the program with its first drawing. -/
theorem playsLines_iff_width (glyphs : Glyphs) (input : List UInt8) :
    (PlaysLines glyphs input ↔ glyphs.width < 65536) ∧
      (¬ glyphs.width < 65536 → play glyphs input = .error .tooWide) := by
  refine ⟨⟨fun hplays => ?_, fun h => ?_⟩, fun h => play_of_wide h input⟩
  · exact Decidable.byContradiction fun h => not_playsLines_of_wide h input hplays
  · have hplay := Glyphs.withPalette_of_narrow h fun palette =>
      Command.playTerminal palette (.fresh input .reliable .reliable)
    exact ⟨_, _, _, Glyphs.toPalette_of_narrow h, LineReader.split_iff.2 rfl, hplay,
      playsScript_lines _ input⟩

/-- A cross of 2^16 characters. -/
def wideGlyphs : Glyphs :=
  { Glyphs.standard with x := String.ofList (List.replicate 65536 'X') }

theorem not_width_wideGlyphs_lt : ¬ wideGlyphs.width < 65536 := by
  have hlength : (wideGlyphs.glyph (some .x)).length = 65536 := by
    show (String.ofList (List.replicate 65536 'X')).length = 65536
    rw [String.length_ofList, List.length_replicate]
  have hle := wideGlyphs.length_glyph_le (some .x)
  omega

/-- Nothing has to be read, and the empty board alone is too wide to be drawn. -/
theorem not_playsLines_wide_cross :
    play wideGlyphs [] = .error .tooWide ∧ ¬ PlaysLines wideGlyphs [] :=
  ⟨play_of_wide not_width_wideGlyphs_lt [], not_playsLines_of_wide not_width_wideGlyphs_lt []⟩

end Terminal
end Noughts
