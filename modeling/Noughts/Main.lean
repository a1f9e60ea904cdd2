import Noughts.Command

/-!
The program on a real terminal.

Each turn is the one of `Session.turn`, made on a terminal whose input holds one
line.  The prompt is shown before that line is read, so of what the turn writes
only the drawings are left to show.
-/

namespace Noughts

/-- Shows bytes at once and returns why that failed, if it did. -/
def showBytes (stdout : IO.FS.Stream) (bytes : List UInt8) : IO (Option String) := do
  try
    stdout.write ⟨bytes.toArray⟩
    stdout.flush
    return none
  catch e =>
    return some (toString e)

/-- Reads up to and with the next newline, byte by byte. -/
partial def readBytes (stdin : IO.FS.Stream) (line : List UInt8) : IO (List UInt8) := do
  let byte ← stdin.read 1
  match byte.data.toList with
  | [] => return line.reverse
  | b :: _ =>
    if b = LineReader.newline then return (b :: line).reverse else readBytes stdin (b :: line)

/-- Shows a prompt and reads the line that answers it. -/
def converse (stdin stdout : IO.FS.Stream) (squares : List Square) :
    IO (Except SessionError (List UInt8)) := do
  match Drawing.prompt squares with
  | .error f => return .error (.fault f)
  | .ok prompt =>
    match ← showBytes stdout (Text.encode prompt) with
    | some reason => return .error (.input (.failed reason))
    | none =>
      try
        return .ok (← readBytes stdin [])
      catch e =>
        return .error (.input (.failed (toString e)))

partial def takeTurns (stdin stdout : IO.FS.Stream) (s : Session Terminal) :
    IO (Except SessionError Outcome) := do
  match s.phase with
  | .finished => return .ok s.game.outcome
  | .awaitingMove =>
    match ← converse stdin stdout s.game.openSquares with
    | .error e => return .error e
    | .ok line =>
      let terminal := Terminal.fresh line .reliable .reliable
      match { s with world := terminal }.turn (Terminal.host .standard) with
      | (.error e, _) => return .error e
      | (.ok _, next) =>
        let _ ← showBytes stdout (next.world.outputFrom .drawing)
        takeTurns stdin stdout next

/-- Shows what is left to say and returns the exit code.  A fault has a code of its
own. -/
def conclude (r : Except Fault Command.Response) : IO UInt32 := do
  match r with
  | .ok response =>
    IO.print response.stdout
    IO.eprint response.stderr
    return response.code.toUInt32
  | .error f =>
    IO.eprintln f.message
    return 101

def play : IO UInt32 := do
  let stdin ← IO.getStdin
  let stdout ← IO.getStdout
  let s := Session.start (Terminal.fresh [] .reliable .reliable)
  let _ ← showBytes stdout (Text.encode (Drawing.screen .standard s.game))
  match ← takeTurns stdin stdout s with
  | .ok _ => return 0
  | .error e => conclude (Command.failure "" e)

end Noughts

open Noughts in
def main (args : List String) : IO UInt32 := do
  match Command.parse args with
  | .ok .play => play
  | _ => conclude (Command.respond args [])
