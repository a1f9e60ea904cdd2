import Noughts.Proofs.Terminal.Console

/-!
A broken display.

A drawing that can not be shown is lost, and that is all.  A console on a display
that fails and the same console on one that does not are run side by side
(`Console.Dims`).  They read the same lines, ask the same questions and play the
same game, and of everything that is drawn the broken display has kept the first
bytes, as many as it has room for (`Console.display_never_matters`).

What a display keeps of several drawings is what it would keep of all of them in one
(`Channel.take_append_taken`), so it does not matter which of them is cut, and where.
-/

namespace Noughts

/-- Of two writes in a row as much is kept as of one write of both. -/
theorem Channel.take_append_taken (c : Channel) (xs ys : List UInt8) :
    (xs ++ ys).take (c.taken (xs ++ ys).length) =
      xs.take (c.taken xs.length) ++ ys.take ((c.after xs.length).taken ys.length) := by
  rw [List.take_append, List.length_append]
  cases hroom : c.room with
  | none =>
    simp only [taken, after, hroom, Option.map_none]
    rw [Nat.add_sub_cancel_left, List.take_of_length_le (Nat.le_add_right _ _), List.take_length,
      List.take_length]
  | some room =>
    simp only [taken, after, hroom, Option.map_some]
    congr 1
    · rw [List.take_eq_take_iff]
      omega
    · rw [List.take_eq_take_iff]
      omega

namespace Terminal

theorem outputFrom_append (t : Terminal) (source : Source) (piece : Source × List UInt8) :
    outputFrom source { t with written := t.written ++ [piece] } =
      t.outputFrom source ++ if piece.1 = source then piece.2 else [] := by
  by_cases h : piece.1 = source
  · simp [outputFrom, List.filter_append, h]
  · simp [outputFrom, List.filter_append, h]

theorem prompted_writeDrawing (t : Terminal) (text : List Char) :
    (t.writeDrawing text).outputFrom .prompt = t.outputFrom .prompt := by
  show outputFrom .prompt { t with written := t.written ++ [(.drawing, _)] } = _
  rw [outputFrom_append, if_neg Source.noConfusion, List.append_nil]

theorem drawn_writeDrawing (t : Terminal) (text : List Char) :
    (t.writeDrawing text).outputFrom .drawing =
      t.outputFrom .drawing ++
        (Text.encode text).take (t.drawings.taken (Text.encode text).length) := by
  show outputFrom .drawing { t with written := t.written ++ [(.drawing, _)] } = _
  rw [outputFrom_append, if_pos rfl]

end Terminal

namespace Console

variable {ω : Type}

theorem prompted_writePrompt (writer : Writer ω) (c : Console ω) (text : List Char) :
    (c.writePrompt writer text).terminal.outputFrom .prompt =
      c.terminal.outputFrom .prompt ++ writer.stored c.prompts (Text.encode text) := by
  show Terminal.outputFrom .prompt
    { c.terminal with written := c.terminal.written ++ [(.prompt, _)] } = _
  rw [Terminal.outputFrom_append, if_pos rfl]

theorem drawn_writePrompt (writer : Writer ω) (c : Console ω) (text : List Char) :
    (c.writePrompt writer text).terminal.outputFrom .drawing =
      c.terminal.outputFrom .drawing := by
  show Terminal.outputFrom .drawing
    { c.terminal with written := c.terminal.written ++ [(.prompt, _)] } = _
  rw [Terminal.outputFrom_append, if_neg Source.noConfusion, List.append_nil]

/-- A console on a display that may fail beside the same console on one that does
not.  The display keeps what it has room for of all that the other one shows, and
has as much room left as if all of it had been one drawing. -/
structure Dims (display : Channel) (dim clear : Console ω) : Prop where
  input : dim.terminal.input = clear.terminal.input
  prompts : dim.prompts = clear.prompts
  prompted : dim.terminal.outputFrom .prompt = clear.terminal.outputFrom .prompt
  drawn : dim.terminal.outputFrom .drawing = (clear.terminal.outputFrom .drawing).take
    (display.taken (clear.terminal.outputFrom .drawing).length)
  drawings : dim.terminal.drawings =
    display.after (clear.terminal.outputFrom .drawing).length
  reliable : clear.terminal.drawings = .reliable

namespace Dims

variable {display : Channel} {dim clear : Console ω}

theorem fresh (input : List UInt8) (prompts : ω) (display : Channel) :
    Dims display (.fresh input prompts display) (.fresh input prompts .reliable) where
  input := rfl
  prompts := rfl
  prompted := rfl
  drawn := List.take_nil.symm
  drawings := by
    show display = display.after 0
    obtain ⟨room, flushes⟩ := display
    cases room <;> rfl
  reliable := rfl

theorem writeDrawing (h : Dims display dim clear) (text : List Char) :
    Dims display (dim.writeDrawing text) (clear.writeDrawing text) := by
  have hclear : (clear.terminal.writeDrawing text).outputFrom .drawing =
      clear.terminal.outputFrom .drawing ++ Text.encode text := by
    rw [Terminal.drawn_writeDrawing, h.reliable, Channel.taken_reliable, List.take_length]
  refine ⟨h.input, h.prompts, ?_, ?_, ?_, ?_⟩
  · show (dim.terminal.writeDrawing text).outputFrom .prompt =
      (clear.terminal.writeDrawing text).outputFrom .prompt
    rw [Terminal.prompted_writeDrawing, Terminal.prompted_writeDrawing, h.prompted]
  · show (dim.terminal.writeDrawing text).outputFrom .drawing =
      ((clear.terminal.writeDrawing text).outputFrom .drawing).take
        (display.taken ((clear.terminal.writeDrawing text).outputFrom .drawing).length)
    rw [hclear, Terminal.drawn_writeDrawing, h.drawn, h.drawings, Channel.take_append_taken]
  · show dim.terminal.drawings.after _ =
      display.after ((clear.terminal.writeDrawing text).outputFrom .drawing).length
    rw [hclear, h.drawings, Channel.after_after, List.length_append]
  · show clear.terminal.drawings.after _ = .reliable
    rw [h.reliable, Channel.after_reliable]

theorem writePrompt (h : Dims display dim clear) (writer : Writer ω) (text : List Char) :
    Dims display (dim.writePrompt writer text) (clear.writePrompt writer text) := by
  refine ⟨h.input, ?_, ?_, ?_, ?_, h.reliable⟩
  · show writer.after dim.prompts _ = writer.after clear.prompts _
    rw [h.prompts]
  · -- Both writers are the same, and they have come the same way.
    rw [prompted_writePrompt, prompted_writePrompt, h.prompted, h.prompts]
  · rw [drawn_writePrompt, drawn_writePrompt, h.drawn]
  · rw [drawn_writePrompt]
    exact h.drawings

theorem readLine (h : Dims display dim clear) :
    dim.readLine.1 = clear.readLine.1 ∧ Dims display dim.readLine.2 clear.readLine.2 := by
  unfold Console.readLine Terminal.readLine
  rw [h.input]
  cases LineReader.nextLine clear.terminal.input with
  | none => exact ⟨rfl, h⟩
  | some split =>
    exact ⟨rfl, rfl, h.prompts, h.prompted, h.drawn, h.drawings, h.reliable⟩

theorem question (h : Dims display dim clear) (writer : Writer ω) (text : List Char) :
    (dim.question writer text).1 = (clear.question writer text).1 ∧
      Dims display (dim.question writer text).2 (clear.question writer text).2 := by
  unfold Console.question
  rw [h.prompts]
  cases writer.failure? clear.prompts (Text.encode text) with
  | some reason => exact ⟨rfl, h.writePrompt writer text⟩
  | none => exact (h.writePrompt writer text).readLine

end Dims

theorem alike_dims (display : Channel) (writer : Writer ω) (palette : Palette) :
    (host writer palette).Alike (host writer palette) (Dims display) where
  ask dim clear g h := by
    show (dim.ask _ _).1 = (clear.ask _ _).1 ∧ Dims display (dim.ask _ _).2 (clear.ask _ _).2
    unfold ask
    cases Drawing.prompt g.openSquares with
    | error f => exact ⟨rfl, h⟩
    | ok text =>
      obtain ⟨hanswer, hasked⟩ := h.question writer text
      exact ⟨congrArg (Except.mapError SessionError.input) hanswer, hasked⟩
  display dim clear g h := h.writeDrawing _
  decline dim clear g token f h hplay := by
    obtain ⟨text, htext⟩ := Drawing.exists_refusal hplay
    exact ⟨_, _, decline_of_refusal htext dim, decline_of_refusal htext clear,
      h.writeDrawing text⟩

/-- What is the same of a run `r` on a display that may fail and a run `r'` on one
that does not, and what is left of the drawings. -/
structure Undisturbed (display : Channel)
    (r r' : Except SessionError Outcome × Session (Console ω)) : Prop where
  result : r.1 = r'.1
  phase : r.2.phase = r'.2.phase
  game : r.2.game = r'.2.game
  input : r.2.world.terminal.input = r'.2.world.terminal.input
  prompted : r.2.world.terminal.outputFrom .prompt = r'.2.world.terminal.outputFrom .prompt
  kept : ∀ n, display.room = some n → r.2.world.terminal.outputFrom .drawing =
    (r'.2.world.terminal.outputFrom .drawing).take
      (min n (r'.2.world.terminal.outputFrom .drawing).length)
  whole : display.room = none →
    r.2.world.terminal.outputFrom .drawing = r'.2.world.terminal.outputFrom .drawing

theorem undisturbed_run (display : Channel) (writer : Writer ω) (palette : Palette)
    (input : List UInt8) (prompts : ω) :
    Undisturbed display
      ((Session.start (fresh input prompts display)).run (host writer palette))
      ((Session.start (fresh input prompts .reliable)).run (host writer palette)) := by
  have hstart : (Session.start (fresh input prompts display)).Together (Dims display)
      (Session.start (fresh input prompts .reliable)) :=
    ⟨rfl, rfl, .fresh input prompts display⟩
  obtain ⟨hresult, hend⟩ := hstart.run (alike_dims display writer palette)
  refine ⟨hresult, hend.phase, hend.game, hend.world.input, hend.world.prompted, ?_, ?_⟩
  · intro n hroom
    have hdrawn := hend.world.drawn
    simp only [Channel.taken, hroom] at hdrawn
    exact hdrawn
  · intro hroom
    have hdrawn := hend.world.drawn
    simp only [Channel.taken, hroom, List.take_length] at hdrawn
    exact hdrawn

/-- Whatever the glyphs, the input and the writer of the prompts, a display that
fails makes no difference but to itself.  With a channel for that writer the console
is the terminal. -/
theorem display_never_matters (glyphs : Glyphs) (input : List UInt8) (display : Channel) :
    (∀ {ω : Type} (writer : Writer ω) (prompts : ω),
      Fault.Alike (Undisturbed display)
        (playOn writer glyphs (.fresh input prompts display))
        (playOn writer glyphs (.fresh input prompts .reliable))) ∧
    ∀ prompts : Channel,
      Fault.Alike (fun r r' => r.1 = r'.1 ∧ r.2.Together Shows r'.2)
        (playOn Channel.writer glyphs (.fresh input prompts display))
        (glyphs.withPalette (Command.playTerminal · (.fresh input prompts display))) := by
  refine ⟨fun writer prompts => ?_, fun prompts => ?_⟩
  · apply Glyphs.alike_withPalette
    exact fun palette => undisturbed_run display writer palette input prompts
  · apply Glyphs.alike_withPalette
    exact fun palette => together_terminal palette input prompts display

end Console
end Noughts
