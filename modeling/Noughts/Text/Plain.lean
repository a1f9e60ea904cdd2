import Noughts.Text.Utf8

/-!
Text without terminal control sequences.

An escape character begins a control sequence, which a terminal obeys and does
not show.  `plain` leaves out what would not be shown: the sequences, and every
control character that is no white space.  It takes one character after the
other and remembers in which part of a sequence it is (`Reading`).

Only a few ends matter for what is left out.  A sequence with parameters ends
with a letter or a mark of the same block, a string ends with the terminator
U+009C, and the escape character and the two cancelling controls U+0018 and
U+001A end everything.
-/

namespace Noughts
namespace Text

/-- Where in a control sequence a character stands. -/
inductive Reading where
  | text
  | escape
  | escapeMarks
  | control
  | device
  | deviceParameters
  | deviceMarks
  | string
  | command
  /-- White space stood inside a sequence.  Characters are shown again, and the
  next control goes on with the sequence. -/
  | paused (sequence : Reading)
deriving DecidableEq, Repr

namespace Reading

/-- The controls that are shown: tab, newline, form feed and carriage return. -/
def isSpacing (c : Char) : Bool :=
  c = '\t' || c = '\n' || c = '\x0c' || c = '\x0d'

/-- Whether a character is shown where no sequence is open. -/
def isShown (c : Char) : Bool :=
  isSpacing c || (' ' ≤ c && c ≠ '\x7f')

def isBetween (first last : Char) (c : Char) : Bool :=
  first ≤ c && c ≤ last

/-- Whether a character holds the string terminator among its bytes. -/
def holdsTerminator (c : Char) : Bool :=
  (String.utf8EncodeChar c).contains 0x9c

/-- What follows the escape character of a sequence. -/
def opened (c : Char) : Reading :=
  if c = '[' then control
  else if c = ']' then command
  else if c = 'P' then device
  else if c = 'X' || c = '^' || c = '_' then string
  else text

def next : Reading → Char → Reading
  | text, _ => text
  | escape, c =>
    if isBetween ' ' '/' c then escapeMarks
    else if isBetween '0' '~' c then opened c
    else if isSpacing c then paused escape
    else escape
  | escapeMarks, c =>
    if isBetween '0' '~' c then text
    else if isSpacing c then paused escapeMarks
    else escapeMarks
  | control, c =>
    if isBetween '@' '~' c then text
    else if isSpacing c then paused control
    else control
  | device, c =>
    if isBetween ' ' '/' c then deviceMarks
    else if isBetween '0' '?' c then deviceParameters
    else if isBetween '@' '~' c then string
    else device
  | deviceParameters, c =>
    if isBetween ' ' '/' c then deviceMarks
    else if isBetween '<' '~' c then string
    else deviceParameters
  | deviceMarks, c => if isBetween '0' '~' c then string else deviceMarks
  | string, c => if holdsTerminator c then text else string
  | command, c => if c = '\x07' then text else command
  | paused sequence, c =>
    if '\x80' ≤ c then text
    else if isShown c then paused sequence
    else sequence

/-- The part of a sequence after a character.  Escape and the cancelling controls
act everywhere. -/
def step (r : Reading) (c : Char) : Reading :=
  if c = '\x1b' then escape
  else if c = '\x18' || c = '\x1a' then text
  else r.next c

def shows (r : Reading) (c : Char) : Bool :=
  match r with
  | text | paused _ => isShown c
  | escape | escapeMarks | control => isSpacing c
  | device | deviceParameters | deviceMarks | string | command => false

end Reading

/-- What is shown of a text that begins inside a sequence. -/
def plainFrom : Reading → List Char → List Char
  | _, [] => []
  | r, c :: rest =>
    if r.shows c then c :: plainFrom (r.step c) rest else plainFrom (r.step c) rest

def plain (s : List Char) : List Char :=
  plainFrom .text s

end Text
end Noughts
