-- Reading scalars: plain, quoted, and in blocks of lines.
import ImageLint.Text.Code
import ImageLint.Yaml.Place

namespace ImageLint.Yaml

/-! ## Line breaks inside scalars -/

/-- A line break between two lines of a folded scalar, with the empty lines
after it: a single break becomes a blank. -/
def foldedBreak (first : Text) (more : List Text) : Text :=
  (if first != ['\n'] then first else if more.isEmpty then [' '] else []) ++ more.flatten

/-! ## Plain scalars -/

/-- A character ends a plain scalar, `following` being the one after it. -/
def endsPlain (inFlow : Bool) (c following : Char) : Bool :=
  isGap c ||
    (c == ':' && (isGap following || (inFlow && [',', '[', ']', '\x7b', '\x7d'].contains following))) ||
    (inFlow && [',', '?', '[', ']', '\x7b', '\x7d'].contains c)

/-- The length of the run of a plain scalar at the start of a text. -/
def plainRun (inFlow : Bool) : Text → Nat
  | [] => 0
  | c :: rest =>
    if endsPlain inFlow c (rest.head?.getD endMark) then 0 else plainRun inFlow rest + 1

/-- The empty lines after a line break, or nothing where a document ends. -/
def plainBreaks : Nat → Scan (Option (List Text))
  | 0 => return some []
  | count + 1 => do
    let c ← peek 0
    if c == ' ' then
      skip
      plainBreaks count
    else if isBreak c then
      let first ← takeBreak
      if ← isSeparator then return none
      return (← plainBreaks count).map (first :: ·)
    else return some []

/-- What lies between two runs of a plain scalar, or nothing if it ends. -/
def plainSpaces : Scan Text := do
  let blanks ← takeMany (· == ' ')
  if !isBreak (← peek 0) then return blanks
  let first ← takeBreak
  modify fun place => { place with keyAllowed := true }
  if ← isSeparator then return []
  let some more ← plainBreaks (← get).rest.length | return []
  return foldedBreak first more

/-- The rest of a plain scalar, `spaces` lying before it. -/
def plainFrom (indent : Int) : Nat → Text → Scan Text
  | 0, _ => return []
  | count + 1, spaces => do
    let place ← get
    let inFlow := place.flowLevel != 0
    let length := plainRun inFlow place.rest
    if (← peek 0) == '#' || length = 0 then return []
    modify fun place => { place with keyAllowed := false }
    let run ← take length
    let following ← plainSpaces
    let place ← get
    let ended := following.isEmpty || place.rest.head? == some '#' ||
      (!inFlow && place.column < indent)
    let rest ← if ended then pure [] else plainFrom indent count following
    return spaces ++ run ++ rest

def plainScalar : Scan Token := do
  let place ← get
  return .scalar (← plainFrom (place.indent + 1) (place.rest.length + 1) []) true

/-! ## Quoted scalars -/

/-- The characters with an escape of their own. -/
def escapes : List (Char × Nat) := [
  ('0', 0), ('a', 7), ('b', 8), ('t', 9), ('\t', 9), ('n', 10), ('v', 11), ('f', 12), ('r', 13),
  ('e', 27), (' ', 32), ('"', 34), ('\\', 92), ('/', 47), ('N', 0x85), ('_', 0xA0), ('L', 0x2028),
  ('P', 0x2029)]

/-- The number of digits of an escape by code. -/
def escapeDigits : List (Char × Nat) := [('x', 2), ('u', 4), ('U', 8)]

variable [Characters]

def codeEscape (count : Nat) : Scan Char := do
  let digits ← take count
  let some values := digits.mapM Text.hexValue? | fail
  if values.length != count then fail
  let code := values.foldl (fun code digit => 16 * code + digit) 0
  if code > 0x10FFFF then throw .noCharacter
  return Text.unitChar code

/-- The empty lines after a line break in quotes. A document may not end
there. -/
def quotedBreaks : Nat → Scan (List Text)
  | 0 => return []
  | count + 1 => do
    if ← isSeparator then fail
    skipMany fun c => c == ' ' || c == '\t'
    if isBreak (← peek 0) then
      let first ← takeBreak
      return first :: (← quotedBreaks count)
    else return []

/-- What an escape stands for, after its backslash. -/
def quotedEscape : Scan Text := do
  let c ← peek 0
  if let some code := escapes.lookup c then
    skip
    return [Char.ofNat code]
  else if let some count := escapeDigits.lookup c then
    skip
    return [← codeEscape count]
  else if isBreak c then
    discard takeBreak
    return (← quotedBreaks (← get).rest.length).flatten
  else fail

/-- A character that stands for itself in either kind of quotes. -/
def isQuotedPlain (c : Char) : Bool := c != '\'' && c != '"' && c != '\\' && !isGap c

/-- The characters up to a blank, a line break or the closing quote. -/
def quotedRun (double : Bool) : Nat → Scan Text
  | 0 => return []
  | count + 1 => do
    let run ← takeMany isQuotedPlain
    let c ← peek 0
    if !double && c == '\'' && (← peek 1) == '\'' then
      skip
      skip
      return run ++ '\'' :: (← quotedRun double count)
    else if (double && c == '\'') || (!double && (c == '"' || c == '\\')) then
      skip
      return run ++ c :: (← quotedRun double count)
    else if double && c == '\\' then
      skip
      let char ← quotedEscape
      return run ++ char ++ (← quotedRun double count)
    else return run

def quotedSpaces : Scan Text := do
  let blanks ← takeMany fun c => c == ' ' || c == '\t'
  let c ← peek 0
  if c == endMark then fail
  if isBreak c then
    let first ← takeBreak
    return foldedBreak first (← quotedBreaks ((← get).rest.length + 1))
  else return blanks

/-- The rest of a quoted scalar up to its closing quote. -/
def quotedFrom (double : Bool) (quote : Char) : Nat → Scan Text
  | 0 => fail
  | count + 1 => do
    let run ← quotedRun double ((← get).rest.length + 1)
    if (← peek 0) == quote then
      skip
      return run
    let spaces ← quotedSpaces
    return run ++ spaces ++ (← quotedFrom double quote count)

def quotedScalar (quote : Char) : Scan Token := do
  skip
  return .scalar (← quotedFrom (quote == '"') quote ((← get).rest.length + 1)) false

/-! ## Block scalars -/

/-- What happens to the line breaks at the end of a block. -/
inductive Chomping where
  | strip
  | clip
  | keep
  deriving DecidableEq

def chomping? (c : Char) : Option Chomping :=
  if c == '+' then some .keep else if c == '-' then some .strip else none

/-- The digit of an indentation, if there is one. Zero is refused. -/
def indentation? (c : Char) : Scan (Option Nat) := do
  if !c.isDigit then return none
  if c == '0' then fail
  return some (c.toNat - 0x30)

/-- The signs after the opening of a block, in either order. -/
def blockHeader : Scan (Chomping × Option Nat) := do
  let c ← peek 0
  let header ← match chomping? c with
    | some chomping =>
      skip
      let increment ← indentation? (← peek 0)
      if increment.isSome then skip
      pure (chomping, increment)
    | none =>
      let increment ← indentation? c
      if increment.isSome then
        skip
        let chomping := chomping? (← peek 0)
        if chomping.isSome then skip
        pure (chomping.getD .clip, increment)
      else pure (.clip, none)
  if !isSpaceOrEnd (← peek 0) then fail
  return header

/-- The empty lines before the first line of a block, and the greatest column
that blanks reach. -/
def blockStart : Nat → Nat → Scan (List Text × Nat)
  | 0, column => return ([], column)
  | count + 1, column => do
    let c ← peek 0
    if c == ' ' then
      skip
      blockStart count (max column (← get).column)
    else if isBreak c then
      let first ← takeBreak
      let (breaks, column) ← blockStart count column
      return (first :: breaks, column)
    else return ([], column)

def skipToColumn (indent : Nat) : Nat → Scan Unit
  | 0 => return
  | count + 1 => do
    if (← get).column < indent && (← peek 0) == ' ' then
      skip
      skipToColumn indent count

def blockBreaks (indent : Nat) : Nat → Scan (List Text)
  | 0 => return []
  | count + 1 => do
    skipToColumn indent indent
    if isBreak (← peek 0) then
      let first ← takeBreak
      return first :: (← blockBreaks indent count)
    else return []

def isBlankOrTab (c : Char) : Bool := c == ' ' || c == '\t'

/-- The lines of a block from the place where one starts, with the last line
break and the empty lines after it. -/
def blockLines (folded : Bool) (indent : Nat) : Nat → Scan (Text × Text × List Text)
  | 0 => return ([], [], [])
  | count + 1 => do
    let indented := isBlankOrTab (← peek 0)
    let line ← takeMany (!isBreak ·)
    let lineBreak ← takeBreak
    let breaks ← blockBreaks indent ((← get).rest.length + 1)
    let place ← get
    if place.column = indent && !place.rest.isEmpty then
      let folds := folded && lineBreak == ['\n'] && !indented && !isBlankOrTab (← peek 0)
      let between := if folds then (if breaks.isEmpty then [' '] else []) else lineBreak
      let (rest, last) ← blockLines folded indent count
      return (line ++ between ++ breaks.flatten ++ rest, last)
    else return (line, lineBreak, breaks)

def blockScalar (folded : Bool) : Scan Token := do
  skip
  let (chomping, increment) ← blockHeader
  skipRestOfLine
  let place ← get
  let least := (max 1 (place.indent + 1)).toNat
  let size := place.rest.length + 1
  let (breaks, indent) ← match increment with
    | none => do
      let (breaks, column) ← blockStart size 0
      pure (breaks, max least column)
    | some increment => do
      let indent := least + increment - 1
      pure (← blockBreaks indent size, indent)
  let place ← get
  let (text, lineBreak, breaks) ←
    if place.column = indent && !place.rest.isEmpty then do
      let (text, last) ← blockLines folded indent size
      pure (breaks.flatten ++ text, last)
    else pure ([], [], breaks)
  let ending := match chomping with
    | .strip => []
    | .clip => lineBreak
    | .keep => lineBreak ++ breaks.flatten
  return .scalar (text ++ ending) false

end ImageLint.Yaml
