import Noughts.Proofs.Results
import Noughts.Proofs.Session.Protocol
import Noughts.Proofs.Terminal.Transcript
import Noughts.Proofs.Text.Lines

/-!
What the terminal's texts are made of.

A player chooses the token that a refusal quotes, so nothing is known about it except
that it is quoted.  Neither quotes nor the names and coordinates of squares have a
control character in them, so whatever was typed, a refusal breaks no line but its own
(`Drawing.tame_of_refusal`).

Hence every line begins with a word of the program's or with the margin of the grid,
as long as no result is shown (`Terminal.linesBegin_of_spoken`).
-/

namespace Noughts

open Text (Tame LinesBegin tame_append tame_cons)

namespace Square

theorem tame_coordinates (s : Square) : Tame s.coordinates :=
  tame_append.2 ⟨tame_append.2 ⟨tame_cons.2 ⟨rfl, Text.tame_toDigits _ _⟩,
    tame_cons.2 ⟨rfl, tame_cons.2 ⟨rfl, Text.tame_toDigits _ _⟩⟩⟩, by decide⟩

theorem tame_of_name {s : Square} {n : List Char} (h : s.name = .ok (some n)) : Tame n := by
  have hs := onBoard_of_ofName? (ofName?_name h)
  rw [name_of_onBoard hs] at h
  cases h
  have hnames : ∀ c r, Tame [columnLetter c, rowDigit r] := by decide
  exact hnames _ _

theorem tame_of_chars {s : Square} {t : List Char} (h : s.chars = .ok t) : Tame t := by
  obtain ⟨found, hfound, h⟩ := of_bind h
  cases h
  cases found with
  | none => exact s.tame_coordinates
  | some n => exact tame_of_name hfound

theorem tame_of_text {s : Square} {t : String} (h : s.text = .ok t) : Tame t.toList := by
  obtain ⟨cs, hcs, h⟩ := of_bind h
  cases h
  show Tame (String.ofList cs).toList
  rw [String.toList_ofList]
  exact tame_of_chars hcs

end Square

theorem Flaw.tame_of_report {f : Flaw} {r : Report} (h : f.report = .ok r) :
    Tame r.message.toList := by
  cases f with
  | unreadable e =>
    cases h
    show Tame ("" ++ (Text.quoted e.token ++ _)).toList
    rw [String.toList_append, String.toList_append, Text.toList_quoted]
    exact tame_append.2 ⟨by decide, tame_append.2 ⟨Text.tame_quote _, by decide⟩⟩
  | offBoard s | occupied s =>
    obtain ⟨t, ht, h⟩ := of_bind h
    cases h
    show Tame (t ++ _).toList
    rw [String.toList_append]
    exact tame_append.2 ⟨Square.tame_of_text ht, by decide⟩

namespace Drawing

/-- What a line begins with: one of the words "Player", "select", "Invalid" and "Game",
or the margin of the grid. -/
def Opening (c : Char) : Prop :=
  c ∈ ['P', 's', 'I', 'G', ' ']

instance : DecidablePred Opening :=
  fun c => inferInstanceAs (Decidable (c ∈ _))

/-- No result looks like another line of the program's. -/
theorem not_opening_of_outcome (outcome : Outcome) :
    ∃ c rest, outcome.text.toList = c :: rest ∧ c ≠ '\n' ∧ ¬ Opening c := by
  rcases outcome with _ | (_ | _) | _
  · exact ⟨_, _, rfl, by decide, by decide⟩
  · exact ⟨_, _, rfl, by decide, by decide⟩
  · exact ⟨_, _, rfl, by decide, by decide⟩
  · exact ⟨_, _, rfl, by decide, by decide⟩

/-- A refusal is one line. -/
theorem tame_of_refusal {e : Refusal} {text : List Char} (h : refusal e = .ok text) :
    ∃ c rest, text = c :: rest ++ ['\n'] ∧ Opening c ∧ Tame (c :: rest) := by
  obtain ⟨report, hreport, h⟩ := of_bind h
  cases h
  have hclose : ". Please enter again\n".toList = ". Please enter again".toList ++ ['\n'] := rfl
  cases e with
  | gameOver =>
    cases hreport
    exact ⟨'G', "ame is already over. Please enter again".toList, rfl, by decide, by decide⟩
  | flawed f =>
    obtain ⟨r, hr, h⟩ := of_bind hreport
    cases h
    have hinvalid : Tame ('I' :: "nvalid move: ".toList) := by decide
    refine ⟨'I', "nvalid move: ".toList ++ r.message.toList ++ ". Please enter again".toList,
      ?_, by decide, ?_⟩
    · show ("Invalid move: " ++ r.message).toList ++ _ = _
      rw [String.toList_append, hclose, ← List.append_assoc]
      rfl
    · exact tame_append.2 ⟨tame_append.2 ⟨hinvalid, Flaw.tame_of_report hr⟩, by decide⟩

/-- A question is a part of a line. -/
theorem tame_of_prompt {squares : List Square} {text : List Char} (h : prompt squares = .ok text) :
    ∃ rest, text = 's' :: rest ∧ Tame text := by
  obtain ⟨names, hnames, h⟩ := of_bind h
  cases h
  have htame : Tame ([',', ' '].intercalate names) := by
    refine Text.tame_intercalate (by decide) fun name hname => ?_
    obtain ⟨s, -, hs⟩ := exists_of_mem_mapM hnames name hname
    exact Square.tame_of_chars hs
  exact ⟨_, rfl, tame_append.2 ⟨tame_append.2 ⟨by decide, htame⟩, by decide⟩⟩

theorem newline_not_mem_fields (width : Nat) {texts : List (List Char)}
    (h : ∀ text ∈ texts, '\n' ∉ text) : '\n' ∉ fields width texts := by
  intro hmem
  obtain ⟨text, htext, hfield⟩ := List.mem_flatMap.1 hmem
  simp [Text.centre, h text htext] at hfield

theorem newline_not_mem_header (width : Nat) : '\n' ∉ header width := by
  have hfields : '\n' ∉ fields width ((List.finRange 3).map fun c => [Square.columnLetter c]) :=
    newline_not_mem_fields width (by decide)
  simpa [header] using hfields

theorem newline_not_mem_rule (width : Nat) : '\n' ∉ rule width := by
  simp [rule]

section Lines

variable {palette : Palette} (h : ∀ c, '\n' ∉ (palette.glyph c).toList)
include h

theorem newline_not_mem_gridRow (b : Board) (r : Fin 3) : '\n' ∉ gridRow palette b r := by
  have hfields : '\n' ∉ fields palette.width
      ((List.finRange 3).map fun c => (palette.glyph (b.grid r c)).toList) := by
    refine newline_not_mem_fields _ (List.forall_mem_map.2 fun c _ => h _)
  have hdigit : ∀ r, '\n' ≠ Square.rowDigit r := by decide
  simpa [gridRow, hdigit] using hfields

/-- If no glyph breaks a line, the lines of a drawing are lines, and each begins with the
word "Player" or with the margin. -/
theorem opening_of_mem_lines (g : Game) {line : List Char} (hline : line ∈ lines palette g) :
    ∃ c rest, line = c :: rest ∧ Opening c ∧ '\n' ∉ c :: rest := by
  have hplayer : ∀ m : Mark, '\n' ∉ playerLine m := by
    intro m
    cases m <;> decide
  simp only [lines, List.mem_append, List.mem_cons, List.not_mem_nil, or_false, List.mem_flatMap,
    List.mem_finRange, true_and] at hline
  rcases hline with (rfl | rfl | rfl) | ⟨r, rfl | rfl⟩
  · exact ⟨_, _, rfl, by decide, hplayer g.player⟩
  · exact ⟨_, _, rfl, by decide, newline_not_mem_header _⟩
  · exact ⟨_, _, rfl, by decide, newline_not_mem_rule _⟩
  · exact ⟨_, _, rfl, by decide, newline_not_mem_gridRow h g.board r⟩
  · exact ⟨_, _, rfl, by decide, newline_not_mem_rule _⟩

theorem linesBegin_board (g : Game) : LinesBegin Opening (board palette g) := by
  refine Text.linesBegin_intercalate fun line hline => ?_
  obtain ⟨c, rest, rfl, hc, hnewline⟩ := opening_of_mem_lines h g hline
  exact Text.linesBegin_cons hc hnewline

end Lines

theorem linesBegin_of_refusal {e : Refusal} {text : List Char} (h : refusal e = .ok text) :
    LinesBegin Opening text := by
  obtain ⟨c, rest, rfl, hc, htame⟩ := tame_of_refusal h
  exact (Text.linesBegin_cons hc htame.newline_not_mem).append Text.linesBegin_newline

theorem linesBegin_of_prompt {squares : List Square} {text : List Char}
    (h : prompt squares = .ok text) : LinesBegin Opening text := by
  obtain ⟨rest, rfl, htame⟩ := tame_of_prompt h
  exact Text.linesBegin_cons (by decide) htame.newline_not_mem

end Drawing

namespace Terminal

/-- As long as no result is shown, every line begins as the program's lines do. -/
theorem linesBegin_of_spoken {palette : Palette} (h : ∀ c, '\n' ∉ (palette.glyph c).toList)
    {e : Event} {text : List Char} (he : spoken palette e = .ok text)
    (hrunning : ∀ g, e = .displayed g → g.isOver = false) :
    LinesBegin Drawing.Opening text := by
  cases e with
  | asked offered => exact Drawing.linesBegin_of_prompt he
  | declined e => exact Drawing.linesBegin_of_refusal he
  | displayed g =>
    cases he
    rw [hrunning g rfl]
    simp only [Bool.false_eq_true, if_false, List.append_nil]
    exact (Drawing.linesBegin_board h g).append Text.linesBegin_newline

theorem transcript_of_output {t : Terminal} {text : List Char} (h : t.output = Text.encode text) :
    t.transcript = String.ofList text := by
  have hdecode : Text.decode? t.output = some (String.ofList text) := by
    rw [Text.decode?_eq_some_iff, String.toList_ofList, h]
  simp only [transcript, hdecode]

/-! ## What calls make of a text -/

section Calls

variable {palette : Palette} {calls : List Event} {texts : List (List Char)}
  (h : calls.mapM (spoken palette) = .ok texts)
include h

theorem screen_prefix_of_spoken {g : Game} {rest : List Event}
    (hcalls : calls = .displayed g :: rest) : Drawing.screen palette g <+: texts.flatten := by
  have hsplit : calls = [.displayed g] ++ rest := hcalls
  rw [hsplit] at h
  obtain ⟨first, more, hfirst, -, rfl⟩ := exists_of_mapM_append h
  cases hfirst
  exact ⟨more.flatten, rfl⟩

/-- After a game that is over its result is the last line. -/
theorem exists_of_conclude {g : Game} (hcalls : Event.Conclude calls g) :
    ∃ before, texts.flatten = before ++ '\n' :: g.outcome.text.toList ++ ['\n'] := by
  obtain ⟨hover, before, rfl, -⟩ := hcalls
  obtain ⟨front, last, -, hlast, rfl⟩ := exists_of_mapM_append h
  cases hlast
  refine ⟨front.flatten ++ Drawing.board palette g, ?_⟩
  simp [hover]

/-- Without such a game no result is a line, whatever was typed. -/
theorem outcome_not_mem_lines (hglyphs : ∀ c, '\n' ∉ (palette.glyph c).toList)
    (hrunning : ∀ g ∈ Event.shownIn calls, g.isOver = false) (outcome : Outcome) :
    outcome.text.toList ∉ Text.lines texts.flatten := by
  have hbegin : LinesBegin Drawing.Opening texts.flatten := by
    refine Text.linesBegin_flatten fun text htext => ?_
    obtain ⟨e, he, hspoken⟩ := exists_of_mem_mapM h text htext
    refine linesBegin_of_spoken hglyphs hspoken fun g hg => hrunning g ?_
    exact List.mem_filterMap.2 ⟨e, he, by rw [hg]; rfl⟩
  obtain ⟨c, rest, houtcome, hnewline, hopening⟩ := Drawing.not_opening_of_outcome outcome
  rw [houtcome]
  exact fun hline => hopening (hbegin.head_of_mem_lines hline hnewline)

end Calls

end Terminal
end Noughts
