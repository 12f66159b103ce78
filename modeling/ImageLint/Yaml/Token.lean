-- The tokens of a document. Where a block starts and ends is told by
-- columns, and a key that has no mark of its own is marked when the colon
-- after it is found.
import ImageLint.Text.Utf8
import ImageLint.Yaml.Scalar

namespace ImageLint.Yaml

/-! ## Blocks -/

/-- Ends the blocks that lie further in than a column. Inside brackets columns
mean nothing. -/
def closeBlocks (column : Int) : Nat → Scan Unit
  | 0 => return
  | count + 1 => do
    let place ← get
    if place.flowLevel = 0 && column < place.indent then
      modify fun place =>
        { place with indent := place.outer.head?.getD (-1), outer := place.outer.tail }
      emit .blockEnd
      closeBlocks column count

/-- Ends the blocks that lie further in than a column. -/
def closeBlocksTo (column : Int) : Scan Unit := do
  closeBlocks column ((← get).outer.length + 1)

/-- Starts a block at a column, unless one is there or further in. -/
def openBlock (column : Nat) : Scan Bool := do
  let place ← get
  if place.indent < column then
    set { place with indent := (column : Int), outer := place.indent :: place.outer }
    return true
  else return false

/-! ## Simple keys -/

/-- Gives up the possible keys that are too far back. A key must be on one
line and not longer than 1024 characters. -/
def dropStaleKeys : Scan Unit := do
  let place ← get
  let isStale := fun (key : SimpleKey) => key.line != place.line || place.index - key.index > 1024
  if place.simpleKeys.any fun entry => isStale entry.2 && entry.2.required then fail
  set { place with simpleKeys := place.simpleKeys.filter fun entry => !isStale entry.2 }

def dropKey : Scan Unit := do
  let place ← get
  if let some key := place.simpleKeys.lookup place.flowLevel then
    if key.required then fail
    set { place with simpleKeys := place.simpleKeys.filter (·.1 != place.flowLevel) }

def saveKey : Scan Unit := do
  let place ← get
  if place.keyAllowed then
    dropKey
    let key : SimpleKey := {
      tokenNumber := place.tokens.size
      required := place.flowLevel = 0 && place.indent = place.column
      index := place.index
      line := place.line
      column := place.column }
    modify fun place => { place with simpleKeys := (place.flowLevel, key) :: place.simpleKeys }

/-- Sets whether a key may start at the next token. -/
def allowKey (allowed : Bool) : Scan Unit :=
  modify fun place => { place with keyAllowed := allowed }

/-- Puts a token before the tokens from a number on. -/
def insertToken (number : Nat) (token : Token) : Scan Unit :=
  modify fun place => { place with tokens := place.tokens.insertIdxIfInBounds number token }

/-! ## Directives -/

def versionNumber : Scan Nat := do
  let digits ← takeMany Char.isDigit
  if digits.isEmpty then fail
  return Text.digitsValue digits

/-- The value of one or more bytes written with percent signs. -/
def uriBytes : Nat → Scan (List UInt8)
  | 0 => return []
  | count + 1 => do
    if (← peek 0) != '%' then return []
    skip
    let some high := Text.hexValue? (← peek 0) | fail
    let some low := Text.hexValue? (← peek 1) | fail
    skip
    skip
    return (high * 16 + low).toUInt8 :: (← uriBytes count)

def isUriChar (c : Char) : Bool := c.isAlphanum || "-;/?:@&=+$,_.!~*'()[]%".toList.contains c

def uriChars : Nat → Scan Text
  | 0 => return []
  | count + 1 => do
    let run ← takeMany fun c => isUriChar c && c != '%'
    if (← peek 0) == '%' then
      let .ok chars := Text.decodeStrict (← uriBytes (← get).rest.length) | fail
      return run ++ chars ++ (← uriChars count)
    else return run

/-- Reads a tag without its handle. -/
def tagUri : Scan Text := do
  let text ← uriChars ((← get).rest.length + 1)
  if text.isEmpty then fail
  return text

def tagHandle : Scan Text := do
  if (← peek 0) != '!' then fail
  skip
  if (← peek 0) == ' ' then return ['!']
  let name ← takeMany isNameChar
  if (← peek 0) != '!' then fail
  skip
  return '!' :: name ++ ['!']

def directive : Scan Token := do
  skip
  let name ← takeMany isNameChar
  if name.isEmpty || !isSpaceOrEnd (← peek 0) then fail
  let token ←
    if name == "YAML".toList then do
      skipMany (· == ' ')
      let major ← versionNumber
      if (← peek 0) != '.' then fail
      skip
      discard versionNumber
      if !isSpaceOrEnd (← peek 0) then fail
      pure (Token.versionDirective major)
    else if name == "TAG".toList then do
      skipMany (· == ' ')
      let handle ← tagHandle
      if (← peek 0) != ' ' then fail
      skipMany (· == ' ')
      let start ← tagUri
      if !isSpaceOrEnd (← peek 0) then fail
      pure (Token.tagDirective handle start)
    else do
      skipMany (!isBreak ·)
      pure Token.otherDirective
  skipRestOfLine
  return token

/-! ## Properties of nodes -/

def anchorName : Scan Text := do
  skip
  let name ← takeMany isNameChar
  let c ← peek 0
  if name.isEmpty || !(isGap c || "?:,]\x7d%@\x60".toList.contains c) then fail
  return name

/-- A second exclamation mark follows before the next gap, so that the tag has
a handle with a name. -/
def hasHandle (rest : Text) : Bool := (rest.takeWhile (!isSpaceOrEnd ·)).contains '!'

def tag : Scan Token := do
  let second ← peek 1
  let token ←
    if second == '<' then do
      skip
      skip
      let suffix ← tagUri
      if (← peek 0) != '>' then fail
      skip
      pure (Token.tag none suffix)
    else if isGap second then do
      skip
      pure (Token.tag none ['!'])
    else if hasHandle ((← get).rest.drop 1) then do
      let handle ← tagHandle
      pure (Token.tag (some handle) (← tagUri))
    else do
      skip
      pure (Token.tag (some ['!']) (← tagUri))
  if !isSpaceOrEnd (← peek 0) then fail
  return token

/-! ## One token -/

/-- Skips blanks, comments and line breaks. After a line break outside
brackets a key may start. -/
def skipToToken : Nat → Scan Unit
  | 0 => return
  | count + 1 => do
    skipComment
    if !(← takeBreak).isEmpty then
      if (← get).flowLevel = 0 then allowKey true
      skipToToken count

def documentMark (token : Token) : Scan Unit := do
  closeBlocksTo (-1)
  dropKey
  allowKey false
  discard (take 3)
  emit token

def openBracket (token : Token) : Scan Unit := do
  saveKey
  modify fun place => { place with flowLevel := place.flowLevel + 1, keyAllowed := true }
  skip
  emit token

def closeBracket (token : Token) : Scan Unit := do
  dropKey
  if (← get).flowLevel = 0 then fail
  modify fun place => { place with flowLevel := place.flowLevel - 1, keyAllowed := false }
  skip
  emit token

/-- The mark of an entry or a key in a block, which may start the block. -/
def openedBlock (start : Token) : Scan Unit := do
  let place ← get
  if place.flowLevel = 0 then
    if !place.keyAllowed then fail
    if ← openBlock place.column then emit start

def entryMark : Scan Unit := do
  openedBlock .blockSequenceStart
  allowKey true
  dropKey
  skip
  emit .blockEntry

def keyMark : Scan Unit := do
  openedBlock .blockMappingStart
  allowKey ((← get).flowLevel = 0)
  dropKey
  skip
  emit .key

/-- The mark of a value. A key that may have started is one now. -/
def valueMark : Scan Unit := do
  let place ← get
  match place.simpleKeys.lookup place.flowLevel with
  | some key =>
    set { place with simpleKeys := place.simpleKeys.filter (·.1 != place.flowLevel) }
    insertToken key.tokenNumber .key
    if place.flowLevel = 0 then
      if ← openBlock key.column then insertToken key.tokenNumber .blockMappingStart
    allowKey false
  | none =>
    openedBlock .blockMappingStart
    allowKey (place.flowLevel = 0)
    dropKey
  skip
  emit .value

def possibleKey (read : Scan Token) : Scan Unit := do
  saveKey
  allowKey false
  emit (← read)

def blockToken (folded : Bool) : Scan Unit := do
  allowKey true
  dropKey
  emit (← blockScalar folded)

/-- The characters that a plain scalar cannot start with. -/
def isIndicator (c : Char) : Bool := "-?:,[]\x7b\x7d#&*!|>'\"%@\x60".toList.contains c

def startsPlain : Scan Bool := do
  let c ← peek 0
  let following ← peek 1
  let inFlow := (← get).flowLevel != 0
  return !(isGap c || isIndicator c) ||
    (!isGap following && (c == '-' || (!inFlow && (c == '?' || c == ':'))))

variable [Characters]

def nextToken : Scan Unit := do
  let place ← get
  let inFlow := place.flowLevel != 0
  let atStart := place.column = 0
  let marked := inFlow || isGap (← peek 1)
  match ← peek 0 with
  | '[' => openBracket .flowSequenceStart
  | '\x7b' => openBracket .flowMappingStart
  | ']' => closeBracket .flowSequenceEnd
  | '\x7d' => closeBracket .flowMappingEnd
  | ',' => do
    allowKey true
    dropKey
    skip
    emit .flowEntry
  | '*' => possibleKey (return .alias (← anchorName))
  | '&' => possibleKey (return .anchor (← anchorName))
  | '!' => possibleKey tag
  | '\'' => possibleKey (quotedScalar '\'')
  | '"' => possibleKey (quotedScalar '"')
  | c =>
    if c == '%' && atStart then do
      closeBlocksTo (-1)
      dropKey
      allowKey false
      emit (← directive)
    else if c == '-' && atStart && (← isSeparator) then documentMark .documentStart
    else if c == '.' && atStart && (← isSeparator) then documentMark .documentEnd
    else if c == '-' && isGap (← peek 1) then entryMark
    else if c == '?' && marked then keyMark
    else if c == ':' && marked then valueMark
    else if c == '|' && !inFlow then blockToken false
    else if c == '>' && !inFlow then blockToken true
    else if ← startsPlain then possibleKey plainScalar
    else fail

def allTokens : Nat → Scan Unit
  | 0 => fail
  | count + 1 => do
    skipToToken ((← get).rest.length + 1)
    dropStaleKeys
    closeBlocksTo (← get).column
    if (← get).rest.isEmpty then
      closeBlocksTo (-1)
      dropKey
    else
      nextToken
      allTokens count

/-- The tokens of a document. A byte-order mark may stand before it. -/
def Token.scan (text : Text) : Except Fault (List Token) := do
  if !text.all isAllowed then throw .malformed
  let start : Place := { rest := text }
  let start := if text.head? == some Text.byteOrderMark then start.step else start
  let (_, place) ← (allTokens (text.length + 2)).run start
  return place.tokens.toList

end ImageLint.Yaml
