-- A place in a document, and the steps of reading from it.
import ImageLint.Yaml.Fault

namespace ImageLint.Yaml

/-! ## Tokens -/

inductive Token where
  | versionDirective (major : Nat)
  | tagDirective (handle start : Text)
  | otherDirective
  | documentStart
  | documentEnd
  | blockSequenceStart
  | blockMappingStart
  | blockEnd
  | flowSequenceStart
  | flowSequenceEnd
  | flowMappingStart
  | flowMappingEnd
  | blockEntry
  | flowEntry
  | key
  | value
  | alias (name : Text)
  | anchor (name : Text)
  /-- A tag: a handle, which stands for a longer text, and what follows. -/
  | tag (handle : Option Text) (suffix : Text)
  /-- A scalar, and whether it stands there without quotes. -/
  | scalar (text : Text) (plain : Bool)
  deriving DecidableEq, Repr

/-- A place where a simple key may have started: a key that has no mark of its
own and is known by the colon after it. -/
structure SimpleKey where
  tokenNumber : Nat
  /-- A colon must follow. -/
  required : Bool
  index : Nat
  line : Nat
  column : Nat
  deriving Repr

/-- A place in a document, with what reading has found so far. -/
structure Place where
  rest : Text
  index : Nat := 0
  line : Nat := 0
  column : Nat := 0
  tokens : Array Token := #[]
  flowLevel : Nat := 0
  indent : Int := -1
  outer : List Int := []
  keyAllowed : Bool := true
  simpleKeys : List (Nat × SimpleKey) := []
  deriving Repr

abbrev Scan := StateT Place (Except Fault)

/-! ## Characters -/

def endMark : Char := Char.ofNat 0

def isBreak (c : Char) : Bool :=
  c == '\n' || c == '\r' || c.toNat == 0x85 || c.toNat == 0x2028 || c.toNat == 0x2029

def isBreakOrEnd (c : Char) : Bool := isBreak c || c == endMark

/-- A blank, a line break or the end, where a tab is no blank. -/
def isSpaceOrEnd (c : Char) : Bool := c == ' ' || isBreakOrEnd c

/-- A blank, a tab, a line break or the end. -/
def isGap (c : Char) : Bool := c == '\t' || isSpaceOrEnd c

def isNameChar (c : Char) : Bool := c.isAlphanum || c == '-' || c == '_'

def isAllowed (c : Char) : Bool :=
  let n := c.toNat
  n == 9 || n == 10 || n == 13 || (0x20 ≤ n && n ≤ 0x7E) || n == 0x85 ||
    (0xA0 ≤ n && n ≤ 0xFFFD) || 0x10000 ≤ n

/-! ## Steps -/

/-- Stops: the text is no document. -/
def fail {α : Type} : Scan α := throw .malformed

def peek (offset : Nat) : Scan Char := return ((← get).rest[offset]?).getD endMark

def Place.step (place : Place) : Place :=
  match place.rest with
  | [] => place
  | c :: rest =>
    let newLine := isBreak c && !(c == '\r' && rest.head? == some '\n')
    { place with
      rest := rest
      index := place.index + 1
      line := if newLine then place.line + 1 else place.line
      column :=
        if newLine then 0
        else if c == Text.byteOrderMark then place.column else place.column + 1 }

def skip : Scan Unit := modify Place.step

def take : Nat → Scan Text
  | 0 => return []
  | count + 1 => do
    match (← get).rest with
    | [] => return []
    | c :: _ =>
      skip
      return c :: (← take count)

def takeMany (p : Char → Bool) : Scan Text := do
  take ((← get).rest.takeWhile p).length

def skipMany (p : Char → Bool) : Scan Unit := discard (takeMany p)

/-- Reads a line break, if there is one. Most are the same to a document. -/
def takeBreak : Scan Text := do
  let c ← peek 0
  if c == '\r' && (← peek 1) == '\n' then
    skip
    skip
    return ['\n']
  else if c == '\r' || c == '\n' || c.toNat == 0x85 then
    skip
    return ['\n']
  else if isBreak c then
    skip
    return [c]
  else return []

/-- Skips blanks and a comment up to the end of the line. -/
def skipComment : Scan Unit := do
  skipMany (· == ' ')
  if (← peek 0) == '#' then skipMany (!isBreak ·)

/-- Skips the rest of a line that may only hold a comment. -/
def skipRestOfLine : Scan Unit := do
  skipComment
  if !isBreakOrEnd (← peek 0) then fail
  discard takeBreak

/-- The mark of a document's start or end stands here, if the line starts
here. -/
def isSeparator : Scan Bool := do
  let start := (← get).rest.take 3
  return (start == "---".toList || start == "...".toList) && isGap (← peek 3)

def emit (token : Token) : Scan Unit :=
  modify fun place => { place with tokens := place.tokens.push token }

end ImageLint.Yaml
