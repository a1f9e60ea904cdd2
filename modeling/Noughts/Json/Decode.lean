import Noughts.Game
import Noughts.Json

/-!
Reading a game and its parts from JSON.

A choice among names is a string, or an object with the name as its only field.
A record is an object, whose other fields are ignored, or the array of its fields
in order.  The parts of a record in object form are read in alphabetical order of
their names, and all that are there are read before a missing one is reported,
which decides the error where there are several.

Only the form is checked.  A game that reads well may break every law of the
game.
-/

namespace Noughts

/-- What a reader met, as messages name it. -/
inductive Met where
  | null
  | bool (b : Bool)
  | integer (n : Int)
  | floating (negative : Bool) (magnitude : Decimal.Binary)
  | string (s : String)
  | sequence
  | map
  | nameAlone
deriving DecidableEq, Repr

inductive Wanted where
  | string
  | choice
  | nothing
  | nameWithContent
  | singleKey
  | count
  | sequence
  | three
  | fewer
  | board
  | boardFields
  | game
  | gameFields
deriving DecidableEq, Repr

inductive DecodeError where
  | wrongType (met : Met) (wanted : Wanted)
  | wrongValue (met : Met) (wanted : Wanted)
  | wrongLength (length : Nat) (wanted : Wanted)
  | missingField (name : String)
  | unknownName (name : String) (known : List String)
  | unreadable (e : Square.Unreadable)
deriving DecidableEq, Repr

namespace Met

def of : Json → Met
  | .null => null
  | .bool b => bool b
  | .integer n => integer n
  | .float negative x => floating negative x
  | .string s => string s
  | .array _ => sequence
  | .object _ => map

def text : Met → String
  | null => "null"
  | bool true => "boolean `true`"
  | bool false => "boolean `false`"
  | integer n => "integer `" ++ (Json.integer n).text ++ "`"
  | floating negative x => "floating point `" ++ (Json.float negative x).text ++ "`"
  | string s => "string " ++ Text.quoted s
  | sequence => "sequence"
  | map => "map"
  | nameAlone => "unit variant"

end Met

def Wanted.text : Wanted → String
  | string => "a string"
  | choice => "string or map"
  | nothing => "unit"
  | nameWithContent => "newtype variant"
  | singleKey => "map with a single key"
  | count => "usize"
  | sequence => "a sequence"
  | three => "an array of length 3"
  | fewer => "fewer elements in array"
  | board => "struct Board"
  | boardFields => "struct Board with 1 element"
  | game => "struct GameState"
  | gameFields => "struct GameState with 5 elements"

namespace DecodeError

/-- A list of names: both of two, or one of more. -/
def alternatives : List String → String
  | [a, b] => "`" ++ a ++ "` or `" ++ b ++ "`"
  | names => "one of " ++ String.intercalate ", " (names.map fun n => "`" ++ n ++ "`")

def message : DecodeError → String
  | wrongType met wanted => "invalid type: " ++ met.text ++ ", expected " ++ wanted.text
  | wrongValue met wanted => "invalid value: " ++ met.text ++ ", expected " ++ wanted.text
  | wrongLength n wanted => "invalid length " ++ toString n ++ ", expected " ++ wanted.text
  | missingField name => "missing field `" ++ name ++ "`"
  | unknownName name known => "unknown variant `" ++ name ++ "`, expected " ++ alternatives known
  | unreadable e => e.message

end DecodeError

namespace Decode

variable {α : Type}

/-- The name of a choice and what comes with it. -/
def choice : Json → Except DecodeError (String × Option Json)
  | .string name => .ok (name, none)
  | .object [(name, content)] => .ok (name, some content)
  | .object _ => .error (.wrongValue .map .singleKey)
  | j => .error (.wrongType (.of j) .choice)

/-- The rest of a choice that has no content.  Null is no content. -/
def bare (value : α) : Option Json → Except DecodeError α
  | none | some .null => .ok value
  | some j => .error (.wrongType (.of j) .nothing)

/-- The rest of a choice that has content. -/
def holding (read : Json → Except DecodeError α) : Option Json → Except DecodeError α
  | none => .error (.wrongType .nameAlone .nameWithContent)
  | some j => read j

/-- Reads one of the choices of a table.  An unknown name is reported before its
content is looked at. -/
def named (table : List (String × (Option Json → Except DecodeError α))) (j : Json) :
    Except DecodeError α := do
  let (name, content) ← choice j
  match table.lookup name with
  | some read => read content
  | none => .error (.unknownName name (table.map Prod.fst))

def mark : Json → Except DecodeError Mark :=
  named [("X", bare .x), ("O", bare .o)]

def cell : Json → Except DecodeError Cell :=
  named [("Empty", bare none), ("X", bare (some .x)), ("O", bare (some .o))]

def outcome : Json → Except DecodeError Outcome :=
  named [("InProgress", bare .inProgress), ("Win", holding fun j => .win <$> mark j),
    ("Draw", bare .draw)]

def square : Json → Except DecodeError Square
  | .string s =>
    match Square.ofToken s with
    | .ok sq => .ok sq
    | .error e => .error (.unreadable e)
  | j => .error (.wrongType (.of j) .string)

/-- A whole number of 64 bits without sign. -/
def count : Json → Except DecodeError UInt64
  | .integer n =>
    if 0 ≤ n ∧ n < UInt64.size then .ok (UInt64.ofNat n.toNat)
    else .error (.wrongValue (.integer n) .count)
  | j => .error (.wrongType (.of j) .count)

/-- Reads the elements in order, up to the first that can not be read. -/
def each (read : Json → Except DecodeError α) : List Json → Except DecodeError (List α)
  | [] => .ok []
  | j :: rest => do
    let a ← read j
    let more ← each read rest
    return a :: more

def squares : Json → Except DecodeError (List Square)
  | .array items => each square items
  | j => .error (.wrongType (.of j) .sequence)

/-- The element at an index of an array that should hold `wanted`. -/
def element (read : Json → Except DecodeError α) (wanted : Wanted) (items : List Json) (i : Nat) :
    Except DecodeError α :=
  match items[i]? with
  | some j => read j
  | none => .error (.wrongLength items.length wanted)

def noMoreThan (size : Nat) (items : List Json) : Except DecodeError Unit :=
  if items.length ≤ size then .ok () else .error (.wrongLength items.length .fewer)

def three (read : Json → Except DecodeError α) : Json → Except DecodeError (Fin 3 → α)
  | .array items => do
    let a ← element read .three items 0
    let b ← element read .three items 1
    let c ← element read .three items 2
    noMoreThan 3 items
    return fun
      | 0 => a
      | 1 => b
      | 2 => c
  | j => .error (.wrongType (.of j) .three)

def grid (j : Json) : Except DecodeError Board := do
  return ⟨← three (three cell) j⟩

def field? (read : Json → Except DecodeError α) (fields : List (String × Json)) (name : String) :
    Except DecodeError (Option α) :=
  match fields.lookup name with
  | some j => do return some (← read j)
  | none => .ok none

def required (name : String) : Option α → Except DecodeError α
  | some a => .ok a
  | none => .error (.missingField name)

def board : Json → Except DecodeError Board
  | .object fields => do
    let cells ← field? grid fields "cells"
    required "cells" cells
  | .array items => do
    let cells ← element grid .boardFields items 0
    noMoreThan 1 items
    return cells
  | j => .error (.wrongType (.of j) .board)

def game : Json → Except DecodeError Game
  | .object fields => do
    let board? ← field? board fields "board"
    let player? ← field? mark fields "current_player"
    let history? ← field? squares fields "history"
    let outcome? ← field? outcome fields "outcome"
    let turn? ← field? count fields "turn"
    let board ← required "board" board?
    let player ← required "current_player" player?
    let turn ← required "turn" turn?
    let history ← required "history" history?
    let outcome ← required "outcome" outcome?
    return { board, player, turn, history, outcome }
  | .array items => do
    let board ← element board .gameFields items 0
    let player ← element mark .gameFields items 1
    let turn ← element count .gameFields items 2
    let history ← element squares .gameFields items 3
    let outcome ← element outcome .gameFields items 4
    noMoreThan 5 items
    return { board, player, turn, history, outcome }
  | j => .error (.wrongType (.of j) .game)

end Decode
end Noughts
