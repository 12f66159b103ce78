-- The tokens of a pattern and a place among them. An escape, a backslash
-- with the character after it, is one token.
import ImageLint.Pattern.Fault
import ImageLint.Pattern.Tree
import ImageLint.Text.Code

namespace ImageLint.Pattern

/-- A token: its text and the place it starts at. -/
structure Token where
  text : Text
  position : Nat
  deriving DecidableEq, Repr

/-- The tokens of a text that starts at `position`. A backslash at the end
is a token of its own. -/
def tokenize : Nat → Text → List Token
  | _, [] => []
  | position, '\\' :: c :: rest => ⟨['\\', c], position⟩ :: tokenize (position + 2) rest
  | position, c :: rest => ⟨[c], position⟩ :: tokenize (position + 1) rest

/-- The switches set for a whole pattern from within it. -/
structure WholeFlags where
  flags : Flags := {}
  verbose : Bool := false
  unicode : Bool := false
  template : Bool := false
  deriving DecidableEq, Repr

/-- What is known of a pattern up to some place in it. -/
structure Cursor where
  named? : Text → Option Char
  rest : List Token
  size : Nat
  whole : WholeFlags := {}
  names : List (Text × Nat) := []
  /-- The widths of the numbered groups, latest first; an open group has
  none. -/
  widths : List (Option Width) := []
  /-- The number of groups opened before the outermost look-behind that is
  being read. -/
  beforeLookBehind : Option Nat := none
  conditions : List (Nat × Nat) := []

abbrev Reading := StateT Cursor (Except Fault)

namespace Cursor

def start (named? : Text → Option Char) (source : Text) (flags : Flags) : Cursor :=
  { named? := named?, rest := tokenize 0 source, size := source.length, whole := { flags := flags } }

def position (cursor : Cursor) : Nat := (cursor.rest.head?.map (·.position)).getD cursor.size

def nextGroup (cursor : Cursor) : Nat := cursor.widths.length + 1

def groupWidth? (cursor : Cursor) (number : Nat) : Option Width :=
  if number = 0 then none
  else (cursor.widths.reverse[number - 1]?).bind id

end Cursor

/-- Stops at a place `back` characters before the next token. -/
def fail {α : Type} (cause : Cause) (back : Nat := 0) : Reading α := do
  throw { cause := cause, position := some ((← get).position - back) }

def failAt {α : Type} (cause : Cause) (position : Nat) : Reading α :=
  throw { cause := cause, position := some position }

/-- Stops if the next token is a backslash with nothing after it. -/
def refuseDangling : Reading Unit := do
  if let some token := (← get).rest.head? then
    if token.text == ['\\'] then failAt .danglingEscape token.position

def peek : Reading (Option Text) := return (← get).rest.head?.map (·.text)

def next : Reading (Option Text) := do
  let token ← peek
  modify fun cursor => { cursor with rest := cursor.rest.tail }
  refuseDangling
  return token

/-- Reads the next token if it is the character `c`. -/
def accept (c : Char) : Reading Bool := do
  if (← peek) == some [c] then
    let _ ← next
    return true
  else return false

def takeWhile (p : Char → Bool) : Nat → Reading Text
  | 0 => return []
  | count + 1 => do
    match ← peek with
    | some [c] =>
      if p c then
        let _ ← next
        return c :: (← takeWhile p count)
      else return []
    | _ => return []

def takeAll (p : Char → Bool) : Reading Text := do takeWhile p (← get).rest.length

/-- Reads a name up to `terminator`, in `count` tokens at most. -/
def untilTerminator (terminator : Char) (what : Text) : Nat → Text → Reading Text
  | 0, _ => fail .unexpectedEnd
  | count + 1, name => do
    match ← next with
    | none =>
      if name.isEmpty then fail (.missingName what)
      else fail (.unterminatedName terminator) name.length
    | some token =>
      if token == [terminator] then
        if name.isEmpty then fail (.missingName what) 1 else return name
      else untilTerminator terminator what count (name ++ token)

def takeName (terminator : Char) (what : Text) : Reading Text := do
  untilTerminator terminator what ((← get).rest.length + 1) []

end ImageLint.Pattern
