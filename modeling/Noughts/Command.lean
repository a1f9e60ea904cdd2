import Noughts.Terminal
import Noughts.Text.Plain

/-!
The command line.

The program takes no arguments of its own.  Arguments are read from the left, and
the first one that asks for help or for the version, or that is an error, decides
what happens; only a command line without any of these plays a game.  `respond`
is the whole program as a function of its arguments and its input.
-/

namespace Noughts
namespace Command

inductive Request where
  | play
  | help
  | version
deriving DecidableEq, Repr

/-- What is wrong with a command line: an argument that means nothing, or a value
given to an option that takes none. -/
inductive UsageError where
  | unexpectedArgument (arg : String)
  | unexpectedValue (value option : String)
deriving DecidableEq, Repr

/-- An argument as a message quotes it, without what a terminal would obey. -/
def mention (arg : String) : String :=
  "'" ++ String.ofList (Text.plain arg.toList) ++ "'"

def UsageError.message : UsageError → String
  | unexpectedArgument arg => "unexpected argument " ++ mention arg ++ " found\n\nUsage: tictac"
  | unexpectedValue value option =>
    "unexpected value " ++ mention value ++ " for " ++ mention option ++
      " found; no more were expected\n\nUsage: tictac " ++ option

def UsageError.report (e : UsageError) : String :=
  "error: " ++ e.message ++ "\n\nFor more information, try '--help'.\n"

def helpText : String :=
  "Two-player tic-tac-toe in the terminal\n\nUsage: tictac\n\nOptions:\n" ++
    "  -h, --help     Print help\n  -V, --version  Print version\n"

def versionText : String :=
  "tictac 0.1.0\n"

/-- Reads a long option, given without its dashes. -/
def longOption (body : List Char) : Except UsageError Request :=
  let name := body.takeWhile (· ≠ '=')
  let option := String.ofList ('-' :: '-' :: name)
  let request :=
    if name = "help".toList then some Request.help
    else if name = "version".toList then some Request.version
    else none
  match request, body.dropWhile (· ≠ '=') with
  | none, _ => .error (.unexpectedArgument option)
  | some request, [] => .ok request
  | some _, _ :: value => .error (.unexpectedValue (String.ofList value) option)

/-- Reads one argument.  Of joined short options the first decides.  The mark that
ends the options, two dashes alone, asks for nothing. -/
def argument (arg : String) : Except UsageError (Option Request) :=
  match arg.toList with
  | ['-', '-'] => .ok none
  | '-' :: '-' :: body => (longOption body).map some
  | '-' :: 'h' :: _ => .ok (some .help)
  | '-' :: 'V' :: _ => .ok (some .version)
  | '-' :: c :: _ => .error (.unexpectedArgument (String.ofList ['-', c]))
  | _ => .error (.unexpectedArgument arg)

/-- Reads a command line.  After the mark that ends the options every argument is
one too many. -/
def parse : List String → Except UsageError Request
  | [] => .ok .play
  | arg :: rest =>
    match argument arg, rest with
    | .error e, _ => .error e
    | .ok (some request), _ => .ok request
    | .ok none, [] => .ok .play
    | .ok none, extra :: _ => .error (.unexpectedArgument extra)

/-- What the program leaves behind: its exit code and both streams. -/
structure Response where
  code : Nat
  stdout : String
  stderr : String
deriving DecidableEq, Repr

/-- The causes of an error, one a line, numbered if there are several. -/
def causeLines : List String → List String
  | [cause] => ["    " ++ cause]
  | causes => causes.zipIdx.map fun (cause, i) => "    " ++ toString i ++ ": " ++ cause

def failureReport (r : Report) : String :=
  "Error: " ++ r.message ++ "\n" ++
    (if r.causes.isEmpty then "" else "\nCaused by:\n") ++
    String.join ((causeLines r.causes).map (· ++ "\n"))

/-- What is left of a game that an error ended. -/
def failure (stdout : String) (e : SessionError) : Except Fault Response := do
  return { code := 1, stdout, stderr := failureReport (← e.report) }

def playTerminal (glyphs : Palette) (terminal : Terminal) :
    Except SessionError Outcome × Session Terminal :=
  (Session.start terminal).run (Terminal.host glyphs)

def respond (args : List String) (stdin : List UInt8) : Except Fault Response :=
  match parse args with
  | .error e => .ok { code := 2, stdout := "", stderr := e.report }
  | .ok .help => .ok { code := 0, stdout := helpText, stderr := "" }
  | .ok .version => .ok { code := 0, stdout := versionText, stderr := "" }
  | .ok .play =>
    let (result, session) := playTerminal .standard (.fresh stdin .reliable .reliable)
    let stdout := session.world.transcript
    match result with
    | .ok _ => .ok { code := 0, stdout, stderr := "" }
    | .error e => failure stdout e

end Command
end Noughts
