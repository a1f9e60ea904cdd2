import Noughts.Session
import Noughts.Terminal.Channel
import Noughts.Terminal.Drawing
import Noughts.Terminal.LineReader
import Noughts.Text.Utf8

/-!
The terminal as a host.

The players see one stream of output, which prompts and drawings reach through a
channel each.  A prompt that can not be shown is a failure of the input, and no
line is read for it.  A drawing that can not be shown is lost, and the game goes
on without it.

What was written is kept in pieces, each with the channel it came through, so
that the stream can be looked at as a whole and from either side.
-/

namespace Noughts

inductive Source where
  | prompt
  | drawing
deriving DecidableEq, Repr

/-- The input still unread, the pieces written so far, and the state of the two
channels. -/
structure Terminal where
  input : List UInt8
  written : List (Source × List UInt8)
  prompts : Channel
  drawings : Channel

namespace Terminal

def fresh (input : List UInt8) (prompts drawings : Channel) : Terminal :=
  { input, written := [], prompts, drawings }

/-- The stream that the players see. -/
def output (t : Terminal) : List UInt8 :=
  t.written.flatMap Prod.snd

/-- What reached the stream through one of the channels. -/
def outputFrom (source : Source) (t : Terminal) : List UInt8 :=
  (t.written.filter fun piece => piece.1 = source).flatMap Prod.snd

def writePrompt (t : Terminal) (text : List Char) : Terminal :=
  let bytes := Text.encode text
  { t with
    written := t.written ++ [(.prompt, bytes.take (t.prompts.taken bytes.length))]
    prompts := t.prompts.after bytes.length }

def writeDrawing (t : Terminal) (text : List Char) : Terminal :=
  let bytes := Text.encode text
  { t with
    written := t.written ++ [(.drawing, bytes.take (t.drawings.taken bytes.length))]
    drawings := t.drawings.after bytes.length }

@[simp] theorem output_writePrompt (t : Terminal) (text : List Char) :
    (t.writePrompt text).output =
      t.output ++ (Text.encode text).take (t.prompts.taken (Text.encode text).length) := by
  simp [output, writePrompt]

@[simp] theorem output_writeDrawing (t : Terminal) (text : List Char) :
    (t.writeDrawing text).output =
      t.output ++ (Text.encode text).take (t.drawings.taken (Text.encode text).length) := by
  simp [output, writeDrawing]

/-- The token that a line holds, which is the line as it stands.  Bytes that are
no text hold none. -/
def lineToken (line : List UInt8) : Except InputError String :=
  match Text.decode? line with
  | some token => .ok token
  | none => .error (.failed "stream did not contain valid UTF-8")

/-- Takes a line off the input.  A line without a token is taken too. -/
def readLine (t : Terminal) : Except InputError String × Terminal :=
  match LineReader.nextLine t.input with
  | none => (.error .closed, t)
  | some (line, rest) => (lineToken line, { t with input := rest })

def question (t : Terminal) (text : List Char) : Except InputError String × Terminal :=
  match t.prompts.failure? (Text.encode text).length with
  | some failure => (.error (.failed failure.message), t.writePrompt text)
  | none => (t.writePrompt text).readLine

def ask (t : Terminal) (squares : List Square) : Except SessionError String × Terminal :=
  match Drawing.prompt squares with
  | .error f => (.error (.fault f), t)
  | .ok text =>
    ((t.question text).1.mapError .input, (t.question text).2)

/-- Tells why a move was refused, if there is a text for it. -/
def decline (t : Terminal) (e : Refusal) : Except Fault Terminal := do
  return t.writeDrawing (← Drawing.refusal e)

theorem length_input_readLine (t : Terminal) (token : String) (h : t.readLine.1 = .ok token) :
    t.readLine.2.input.length < t.input.length := by
  unfold readLine at h ⊢
  split
  · rename_i hnone
    rw [hnone] at h
    cases h
  · rename_i hsome
    exact LineReader.length_lt_of_nextLine hsome

theorem length_input_question (t : Terminal) (text : List Char) (token : String)
    (h : (t.question text).1 = .ok token) :
    (t.question text).2.input.length < t.input.length := by
  unfold question at h ⊢
  split
  · rename_i hfail
    rw [hfail] at h
    cases h
  · rename_i hfail
    rw [hfail] at h
    exact length_input_readLine _ token h

theorem length_input_ask (t : Terminal) (squares : List Square) (token : String)
    (h : (t.ask squares).1 = .ok token) : (t.ask squares).2.input.length < t.input.length := by
  unfold ask at h ⊢
  split
  · rename_i hfault
    rw [hfault] at h
    cases h
  · rename_i text hprompt
    rw [hprompt] at h
    apply length_input_question t text token
    cases hq : (t.question text).1 with
    | ok answer =>
      have hm : (Except.ok answer : Except InputError String).mapError SessionError.input =
          .ok token := hq ▸ h
      cases hm
      rfl
    | error e =>
      have hm : (Except.error e : Except InputError String).mapError SessionError.input =
          .ok token := hq ▸ h
      cases hm

theorem input_decline {t next : Terminal} {e : Refusal} (h : t.decline e = .ok next) :
    next.input = t.input := by
  unfold decline at h
  cases hr : Drawing.refusal e with
  | ok text => rw [hr] at h; cases h; rfl
  | error f => rw [hr] at h; cases h

def host (glyphs : Palette) : Host Terminal where
  ask := ask
  display t g := t.writeDrawing (Drawing.screen glyphs g)
  decline := decline
  supply t := t.input.length
  supply_ask := length_input_ask
  supply_display _ _ := Nat.le_refl _
  supply_decline _ _ _ h := Nat.le_of_eq (congrArg List.length (input_decline h))

/-- The stream so far as text. -/
def transcript (t : Terminal) : String :=
  match Text.decode? t.output with
  | some s => s
  | none => String.ofList (Text.decodeLossy t.output)

end Terminal
end Noughts
