import Noughts.Command
import Noughts.Proofs.Session.Simulation
import Noughts.Proofs.Terminal.Palettes
import Noughts.Proofs.Terminal.Transcript

/-!
A terminal that prompts through any writer.

A channel is one way for a prompt to get through or fail.  A `Writer` can do it in
any way at all.  It stores what it likes of a prompt, fails for any reason and goes
on in any state.  A `Console` is a terminal whose prompts go through such a writer,
and a console with a channel for its writer is the terminal with that channel, from
the first call to the last (`Console.alike_terminal`).
-/

namespace Noughts

/-- What becomes of a text that is written and flushed: the bytes that come through,
the reason if it fails, and the writer after. -/
structure Writer (ω : Type) where
  stored : ω → List UInt8 → List UInt8
  failure? : ω → List UInt8 → Option String
  after : ω → List UInt8 → ω

def Channel.writer : Writer Channel where
  stored c bytes := bytes.take (c.taken bytes.length)
  failure? c bytes := (c.failure? bytes.length).map Channel.Failure.message
  after c bytes := c.after bytes.length

/-- A terminal with a writer for its prompts.  The channel that the terminal itself
has for them is not used. -/
structure Console (ω : Type) where
  terminal : Terminal
  prompts : ω

namespace Console

variable {ω : Type}

def fresh (input : List UInt8) (prompts : ω) (drawings : Channel) : Console ω :=
  { terminal := .fresh input .reliable drawings, prompts }

def writePrompt (writer : Writer ω) (c : Console ω) (text : List Char) : Console ω :=
  let bytes := Text.encode text
  let piece := (Source.prompt, writer.stored c.prompts bytes)
  { terminal := { c.terminal with written := c.terminal.written ++ [piece] }
    prompts := writer.after c.prompts bytes }

def writeDrawing (c : Console ω) (text : List Char) : Console ω :=
  { c with terminal := c.terminal.writeDrawing text }

def readLine (c : Console ω) : Except InputError String × Console ω :=
  (c.terminal.readLine.1, { c with terminal := c.terminal.readLine.2 })

def question (writer : Writer ω) (c : Console ω) (text : List Char) :
    Except InputError String × Console ω :=
  match writer.failure? c.prompts (Text.encode text) with
  | some reason => (.error (.failed reason), c.writePrompt writer text)
  | none => (c.writePrompt writer text).readLine

def ask (writer : Writer ω) (c : Console ω) (squares : List Square) :
    Except SessionError String × Console ω :=
  match Drawing.prompt squares with
  | .error f => (.error (.fault f), c)
  | .ok text => ((c.question writer text).1.mapError .input, (c.question writer text).2)

def decline (c : Console ω) (e : Refusal) : Except Fault (Console ω) := do
  return c.writeDrawing (← Drawing.refusal e)

theorem length_input_question (writer : Writer ω) (c : Console ω) (text : List Char)
    (token : String) (h : (c.question writer text).1 = .ok token) :
    (c.question writer text).2.terminal.input.length < c.terminal.input.length := by
  unfold question at h ⊢
  cases hfail : writer.failure? c.prompts (Text.encode text) with
  | some reason =>
    rw [hfail] at h
    cases h
  | none =>
    rw [hfail] at h
    exact Terminal.length_input_readLine (c.writePrompt writer text).terminal token h

theorem length_input_ask (writer : Writer ω) (c : Console ω) (squares : List Square)
    (token : String) (h : (c.ask writer squares).1 = .ok token) :
    (c.ask writer squares).2.terminal.input.length < c.terminal.input.length := by
  unfold ask at h ⊢
  cases hprompt : Drawing.prompt squares with
  | error f =>
    rw [hprompt] at h
    cases h
  | ok text =>
    simp only [hprompt] at h ⊢
    apply length_input_question writer c text token
    cases hq : (c.question writer text).1 with
    | ok answer =>
      rw [hq] at h
      cases h
      rfl
    | error e =>
      rw [hq] at h
      cases h

theorem decline_of_refusal {e : Refusal} {text : List Char} (h : Drawing.refusal e = .ok text)
    (c : Console ω) : c.decline e = .ok (c.writeDrawing text) := by
  simp only [decline, h]
  rfl

theorem input_decline {c next : Console ω} {e : Refusal} (h : c.decline e = .ok next) :
    next.terminal.input = c.terminal.input := by
  unfold decline at h
  cases hr : Drawing.refusal e with
  | ok text =>
    rw [hr] at h
    cases h
    rfl
  | error f =>
    rw [hr] at h
    cases h

def host (writer : Writer ω) (palette : Palette) : Host (Console ω) where
  ask := ask writer
  display c g := c.writeDrawing (Drawing.screen palette g)
  decline := decline
  supply c := c.terminal.input.length
  supply_ask := length_input_ask writer
  supply_display _ _ := Nat.le_refl _
  supply_decline _ _ _ h := Nat.le_of_eq (congrArg List.length (input_decline h))

/-- What comes of a session on a console. -/
def playOn (writer : Writer ω) (glyphs : Glyphs) (c : Console ω) :
    Except Fault (Except SessionError Outcome × Session (Console ω)) :=
  glyphs.withPalette fun palette => (Session.start c).run (host writer palette)

/-! ## A terminal is a console -/

/-- The console shows what the terminal shows: they have the same input and output
and the same channels. -/
structure Shows (c : Console Channel) (t : Terminal) : Prop where
  input : c.terminal.input = t.input
  written : c.terminal.written = t.written
  prompts : c.prompts = t.prompts
  drawings : c.terminal.drawings = t.drawings

namespace Shows

variable {c : Console Channel} {t : Terminal}

theorem writeDrawing (h : c.Shows t) (text : List Char) :
    (c.writeDrawing text).Shows (t.writeDrawing text) where
  input := h.input
  written := by
    show c.terminal.written ++ _ = t.written ++ _
    rw [h.written, h.drawings]
  prompts := h.prompts
  drawings := by
    show c.terminal.drawings.after _ = t.drawings.after _
    rw [h.drawings]

theorem writePrompt (h : c.Shows t) (text : List Char) :
    (c.writePrompt Channel.writer text).Shows (t.writePrompt text) where
  input := h.input
  written := by
    show c.terminal.written ++ [(.prompt, Channel.writer.stored c.prompts _)] = t.written ++ _
    rw [h.written, h.prompts]
    rfl
  prompts := by
    show Channel.writer.after c.prompts _ = t.prompts.after _
    rw [h.prompts]
    rfl
  drawings := h.drawings

theorem readLine (h : c.Shows t) :
    c.readLine.1 = t.readLine.1 ∧ c.readLine.2.Shows t.readLine.2 := by
  unfold Console.readLine Terminal.readLine
  rw [h.input]
  cases LineReader.nextLine t.input with
  | none => exact ⟨rfl, h⟩
  | some split => exact ⟨rfl, rfl, h.written, h.prompts, h.drawings⟩

theorem question (h : c.Shows t) (text : List Char) :
    (c.question Channel.writer text).1 = (t.question text).1 ∧
      (c.question Channel.writer text).2.Shows (t.question text).2 := by
  have hfailure : Channel.writer.failure? c.prompts (Text.encode text) =
      (t.prompts.failure? (Text.encode text).length).map Channel.Failure.message := by
    rw [h.prompts]
    rfl
  unfold Console.question Terminal.question
  rw [hfailure]
  cases t.prompts.failure? (Text.encode text).length with
  | some failure => exact ⟨rfl, h.writePrompt text⟩
  | none => exact (h.writePrompt text).readLine

end Shows

theorem alike_terminal (palette : Palette) :
    (host Channel.writer palette).Alike (Terminal.host palette) Shows where
  ask c t g h := by
    show (c.ask _ _).1 = (t.ask _).1 ∧ (c.ask _ _).2.Shows (t.ask _).2
    unfold ask Terminal.ask
    cases Drawing.prompt g.openSquares with
    | error f => exact ⟨rfl, h⟩
    | ok text =>
      obtain ⟨hanswer, hasked⟩ := h.question text
      exact ⟨congrArg (Except.mapError SessionError.input) hanswer, hasked⟩
  display c t g h := h.writeDrawing _
  decline c t g token f h hplay := by
    obtain ⟨text, htext⟩ := Drawing.exists_refusal hplay
    refine ⟨_, t.writeDrawing text, decline_of_refusal htext c, ?_, h.writeDrawing text⟩
    show t.decline _ = _
    simp only [Terminal.decline, htext]
    rfl

/-- With a channel for its writer a console plays what the terminal plays. -/
theorem together_terminal (palette : Palette) (input : List UInt8) (prompts display : Channel) :
    let r := (Session.start (fresh input prompts display)).run (host Channel.writer palette)
    let r' := Command.playTerminal palette (.fresh input prompts display)
    r.1 = r'.1 ∧ r.2.Together Shows r'.2 := by
  intro r r'
  have hstart : (Session.start (fresh input prompts display)).Together Shows
      (Session.start (Terminal.fresh input prompts display)) :=
    ⟨rfl, rfl, rfl, rfl, rfl, rfl⟩
  exact hstart.run (alike_terminal palette)

end Console
end Noughts
