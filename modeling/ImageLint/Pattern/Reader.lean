-- Reading a pattern. Faults are found in the order of the text; those of
-- look-behinds, which need the whole pattern, come last.
import ImageLint.Number.Integer
import ImageLint.Pattern.Escape
import ImageLint.Unicode.Identifier
import ImageLint.Unicode.Letter

namespace ImageLint.Pattern

/-! ## Sets -/

def setMember : Text → Reading SetItem
  | ['\\', c] => setEscape c
  | token => return .char ((token.head?.map Char.toNat).getD 0)

/-- A range between two members, `low` and `high` being their tokens. -/
def rangeOf (low high : Text) : SetItem → SetItem → Reading SetItem
  | .char first, .char last => do
    if last < first then fail (.badRange low high) (low.length + 1 + high.length)
    return .range first last
  | _, _ => fail (.badRange low high) (low.length + 1 + high.length)

/-- The members of a set up to its closing bracket, in `count` tokens at
most. `opening` is the place of the opening bracket. -/
def setMembers (opening : Nat) : Nat → List SetItem → Reading (List SetItem)
  | 0, _ => failAt .unterminatedSet opening
  | count + 1, items => do
    let some token ← next | failAt .unterminatedSet opening
    if token == [']'] && !items.isEmpty then return items
    let item ← setMember token
    if ← accept '-' then
      let some last ← next | failAt .unterminatedSet opening
      if last == [']'] then return items ++ [item, .char '-'.toNat]
      let range ← rangeOf token last item (← setMember last)
      setMembers opening count (items ++ [range])
    else setMembers opening count (items ++ [item])

/-- A set, or the character it is when it has just one. -/
def setTree (negated : Bool) (items : List SetItem) : Tree :=
  match negated, items.eraseDups with
  | false, [.char code] => .char code
  | _, distinct => .set negated distinct

def readSet : Reading Tree := do
  let cursor ← get
  let negated ← accept '^'
  return setTree negated (← setMembers (cursor.position - 1) (cursor.rest.length + 1) [])

/-! ## Repetitions -/

/-- The number of repetitions that is too large to count. -/
def repetitionLimit : Nat := 4294967295

/-- How often a part is repeated: at least, and at most if there is a bound. -/
structure Bounds where
  least : Nat
  most : Option Nat

/-- A bound written in digits, if there are any. -/
def bound? (digits : Text) : Reading (Option Nat) := do
  if digits.isEmpty then return none
  if digits.length > Text.digitLimit then throw { cause := .tooManyDigits digits.length }
  let value := valueIn 10 digits
  if value ≥ repetitionLimit then throw { cause := .repeatTooLarge }
  return some value

/-- The bounds in braces, after the opening one. A brace that no bounds
follow is an ordinary character. -/
def readBraces : Reading (Option Bounds) := do
  let start ← get
  if (← peek) == some ['\x7d'] then return none
  let low ← takeAll Char.isDigit
  let high ← if ← accept ',' then takeAll Char.isDigit else pure low
  if !(← accept '\x7d') then
    set start
    return none
  let least := (← bound? low).getD 0
  let most ← bound? high
  if let some most := most then
    if most < least then failAt .repeatOutOfOrder start.position
  return some ⟨least, most⟩

/-- The bounds that a repetition sign stands for. -/
def readBounds : Char → Reading (Option Bounds)
  | '?' => return some ⟨0, some 1⟩
  | '*' => return some ⟨0, none⟩
  | '+' => return some ⟨1, none⟩
  | _ => readBraces

/-- How the repetition chooses its length: by the sign after the bounds. -/
def readGreed : Reading Greed := do
  if ← accept '?' then return .shortest
  else if ← accept '+' then return .possessive
  else return .longest

/-- Repeats the last of the parts, `items` having the last one first. -/
def repeatLast (opening : Nat) (bounds : Bounds) : List Tree → Reading (List Tree)
  | [] => failAt .nothingToRepeat opening
  | item :: items => do
    if item.isAnchor then failAt .nothingToRepeat opening
    if item.isRepetition then failAt .multipleRepeat opening
    return .repetition (← readGreed) bounds.least bounds.most item :: items

/-! ## Flags -/

/-- A letter that stands for a flag. -/
def isFlagLetter (token : Text) : Bool :=
  ["i", "L", "m", "s", "x", "a", "t", "u"].any fun letter => letter.toList == token

def refuseFlag {α : Type} (token : Text) (otherwise : Cause) : Reading α :=
  fail (if !token.isEmpty && token.all Unicode.isLetter then .unknownFlag else otherwise)
    token.length

/-- The letters turned on, and the token that ends them. -/
def flagsOn : Nat → Text → Text → Reading (Text × Text)
  | 0, _, _ => fail .unexpectedEnd
  | count + 1, letters, token => do
    if token == ['L'] then fail .localeFlag
    let letters := letters ++ token
    if letters.contains 'a' && letters.contains 'u' && (token == ['a'] || token == ['u']) then
      fail .mixedAlphabets
    let some token ← next | fail .missingFlagEnd
    if token == [')'] || token == ['-'] || token == [':'] then return (letters, token)
    if !isFlagLetter token then refuseFlag token .missingFlagEnd
    flagsOn count letters token

def flagsOff : Nat → Text → Text → Reading Text
  | 0, _, _ => fail .unexpectedEnd
  | count + 1, letters, token => do
    if token == ['a'] || token == ['u'] || token == ['L'] then fail .alphabetTurnedOff
    let letters := letters ++ token
    let some token ← next | fail .missingColon
    if token == [':'] then return letters
    if !isFlagLetter token then refuseFlag token .missingColon
    flagsOff count letters token

/-- The flags of a whole pattern with more turned on. -/
def WholeFlags.turnOn (whole : WholeFlags) (letters : Text) : WholeFlags :=
  { flags :=
      { ignoreCase := whole.flags.ignoreCase || letters.contains 'i'
        multiline := whole.flags.multiline || letters.contains 'm'
        dotAll := whole.flags.dotAll || letters.contains 's'
        ascii := whole.flags.ascii || letters.contains 'a' }
    verbose := whole.verbose || letters.contains 'x'
    unicode := whole.unicode || letters.contains 'u'
    template := whole.template || letters.contains 't' }

/-- The change of one flag: on, off or none. -/
def changeOf (letter : Char) (on off : Text) : Option Bool :=
  if on.contains letter then some true else if off.contains letter then some false else none

def FlagChange.ofLetters (on off : Text) : FlagChange :=
  { ignoreCase := changeOf 'i' on off
    multiline := changeOf 'm' on off
    dotAll := changeOf 's' on off
    ascii := if on.contains 'u' then some false else changeOf 'a' on off }

/-- The flags between a question mark and a colon: those turned on and those
turned off. Flags that a parenthesis closes are for the whole pattern; they
are set at once, and there is no group. -/
def readFlags (token : Text) : Reading (Option (Text × Text)) := do
  let count := (← get).rest.length + 1
  let (on, ending) ← if token == ['-'] then pure ([], token) else flagsOn count [] token
  if ending == [')'] then
    modify fun cursor => { cursor with whole := cursor.whole.turnOn on }
    return none
  if on.contains 't' then fail .wholePatternFlagOn 1
  let off ← if ending == ['-'] then do
      let some token ← next | fail .missingFlag
      if !isFlagLetter token then refuseFlag token .missingFlag
      flagsOff count [] token
    else pure []
  if off.contains 't' then fail .wholePatternFlagOff 1
  if on.any off.contains then fail .flagOnAndOff 1
  return some (on, off)

/-! ## Groups -/

/-- Opens a group that remembers its text, and gives its number. -/
def openGroup (name : Option Text) : Reading Nat := do
  let cursor ← get
  let number := cursor.nextGroup
  if let some name := name then
    if let some earlier := cursor.names.lookup name then
      fail (.redefinedName name number earlier) (name.length + 1)
  modify fun cursor =>
    { cursor with
      widths := none :: cursor.widths
      names := match name with
        | some name => (name, number) :: cursor.names
        | none => cursor.names }
  return number

def closeGroup (number : Nat) (body : Tree) : Reading Unit := do
  modify fun cursor =>
    let width := body.width fun group => (cursor.groupWidth? group).getD ⟨0, 0⟩
    { cursor with widths := cursor.widths.set (cursor.widths.length - number) (some width) }

def checkName (name : Text) : Reading Unit := do
  if !Unicode.isIdentifier name then fail (.badName name) (name.length + 1)

/-- A reference to a group by name, after the equals sign. -/
def namedReference : Reading Tree := do
  let name ← takeName ')' "group name"
  checkName name
  let some number := (← get).names.lookup name | fail (.unknownName name) (name.length + 1)
  if ((← get).groupWidth? number).isNone then fail .openGroup (name.length + 1)
  checkLookBehindGroup number
  return .recall number

def groupLimit : Nat := 1073741823

def conditionGroup : Reading Nat := do
  let name ← takeName ')' "group name"
  if Unicode.isIdentifier name then
    let some number := (← get).names.lookup name | fail (.unknownName name) (name.length + 1)
    checkLookBehindGroup number
    return number
  let number ← match Integer.read? name with
    | some (.ofNat number) => pure number
    | _ => fail (.badName name) (name.length + 1)
  if number = 0 then fail .badGroupNumber (name.length + 1)
  if number ≥ groupLimit then fail (.invalidReference number) (name.length + 1)
  modify fun cursor =>
    if (cursor.conditions.lookup number).isSome then cursor
    else
      { cursor with
        conditions := cursor.conditions ++ [(number, cursor.position - name.length - 1)] }
  checkLookBehindGroup number
  return number

/-- Skips a comment up to its closing parenthesis, in `count` tokens at most. -/
def skipComment (opening : Nat) : Nat → Reading Unit
  | 0 => failAt .unterminatedComment opening
  | count + 1 => do
    let some token ← next | failAt .unterminatedComment opening
    if token != [')'] then skipComment opening count

/-- Skips the rest of a line, in `count` tokens at most. -/
def skipLine : Nat → Reading Unit
  | 0 => return
  | count + 1 => do
    match ← next with
    | none => return
    | some token => if token != ['\n'] then skipLine count

def closeParenthesis (opening : Nat) : Reading Unit := do
  if !(← accept ')') then failAt .unterminatedGroup opening

inductive Opening where
  | group (name : Option Text) (captures atomic : Bool) (on off : Text)
  | part (tree : Tree)
  | nothing
  | flags
  /-- A look-ahead or a look-behind, with a body to come. -/
  | look (behind negated : Bool)
  | condition (number : Nat)

def readNamedOpening : Reading Opening := do
  if ← accept '<' then
    let name ← takeName '>' "group name"
    checkName name
    return .group (some name) true false [] []
  else if ← accept '=' then
    return .part (← namedReference)
  else
    let some token ← next | fail .unexpectedEnd
    fail (.unknownExtension ('P' :: token)) (token.length + 2)

def readLookBehind : Reading Opening := do
  let some token ← next | fail .unexpectedEnd
  if token == ['='] then return .look true false
  else if token == ['!'] then return .look true true
  else fail (.unknownExtension ('<' :: token)) (token.length + 2)

def readOpening (opening : Nat) : Reading Opening := do
  if !(← accept '?') then return .group none true false [] []
  let some token ← next | fail .unexpectedEnd
  match token with
  | ['P'] => readNamedOpening
  | [':'] => return .group none false false [] []
  | ['#'] =>
    skipComment opening ((← get).rest.length + 1)
    return .nothing
  | ['='] => return .look false false
  | ['!'] => return .look false true
  | ['<'] => readLookBehind
  | ['('] => return .condition (← conditionGroup)
  | ['>'] => return .group none false true [] []
  | _ =>
    if isFlagLetter token || token == ['-'] then
      match ← readFlags token with
      | none => return .flags
      | some (on, off) => return .group none false false on off
    else fail (.unknownExtension token) (token.length + 1)

/-! ## Sequences and alternatives -/

structure Setting where
  top : Bool
  first : Bool
  verbose : Bool

def Setting.inner (setting : Setting) : Setting :=
  { top := false, first := false, verbose := setting.verbose }

def isLayout (c : Char) : Bool := c == ' ' || (9 ≤ c.toNat && c.toNat ≤ 13)

/-- A part of one token that is neither a repetition nor a group. -/
def readPart : Text → Reading Tree
  | ['['] => readSet
  | ['.'] => return .any
  | ['^'] => return .anchor .lineStart
  | ['$'] => return .anchor .lineEnd
  | ['\\', c] => treeEscape c
  | token => return .char ((token.head?.map Char.toNat).getD 0)

mutual

/-- Alternatives up to a closing parenthesis or the end. The first argument
bounds the depth of the reading. -/
def readAlternatives : Nat → Setting → Reading Tree
  | 0, _ => fail .unexpectedEnd
  | fuel + 1, setting => do
    let first ← readSequence fuel setting []
    if ← accept '|' then
      let whole := (← get).whole
      let verbose := if setting.top then whole.verbose else setting.verbose
      let rest ← readAlternatives fuel { setting with first := false, verbose := verbose }
      return .alternate first rest
    else return first

/-- Parts up to a bar, a closing parenthesis or the end. `items` are those
read so far, the last one first. -/
def readSequence : Nat → Setting → List Tree → Reading Tree
  | 0, _, _ => fail .unexpectedEnd
  | fuel + 1, setting, items => do
    let token := (← peek).getD ['|']
    if token == ['|'] || token == [')'] then return .ofList items.reverse
    let opening := (← get).position
    let _ ← next
    match token with
    | [c] =>
      if setting.verbose && isLayout c then readSequence fuel setting items
      else if setting.verbose && c == '#' then
        skipLine ((← get).rest.length + 1)
        readSequence fuel setting items
      else if c == '*' || c == '+' || c == '?' || c == '\x7b' then
        match ← readBounds c with
        | some bounds => readSequence fuel setting (← repeatLast opening bounds items)
        | none => readSequence fuel setting (.char c.toNat :: items)
      else if c == '(' then readGroup fuel setting items opening
      else readSequence fuel setting ((← readPart token) :: items)
    | _ => readSequence fuel setting ((← readPart token) :: items)

def readGroup : Nat → Setting → List Tree → Nat → Reading Tree
  | 0, _, _, _ => fail .unexpectedEnd
  | fuel + 1, setting, items, opening => do
    match ← readOpening opening with
    | .nothing => readSequence fuel setting items
    | .part tree => readSequence fuel setting (tree :: items)
    | .flags =>
      if !setting.first || !items.isEmpty then failAt .flagsNotAtStart opening
      readSequence fuel { setting with verbose := (← get).whole.verbose } items
    | .look behind negated =>
      let outer := (← get).beforeLookBehind
      if behind && outer.isNone then
        modify fun cursor => { cursor with beforeLookBehind := some cursor.widths.length }
      let body ← readAlternatives fuel setting.inner
      modify fun cursor => { cursor with beforeLookBehind := outer }
      closeParenthesis opening
      let cursor ← get
      let width := body.width fun group => (cursor.groupWidth? group).getD ⟨0, 0⟩
      readSequence fuel setting
        ((if behind then .lookBehind negated width body else .lookAhead negated body) :: items)
    | .condition number =>
      let present ← readSequence fuel setting.inner []
      let absent ← if ← accept '|' then do
          let absent ← readSequence fuel setting.inner []
          if (← peek) == some ['|'] then fail .threeBranches
          pure absent
        else pure .empty
      closeParenthesis opening
      readSequence fuel setting (.conditional number present absent :: items)
    | .group name captures atomic on off =>
      let number ← if captures then some <$> openGroup name else pure none
      let verbose := (setting.verbose || on.contains 'x') && !off.contains 'x'
      let body ← readAlternatives fuel { setting.inner with verbose := verbose }
      closeParenthesis opening
      if let some number := number then closeGroup number body
      readSequence fuel setting
        ((if atomic then .atomic body
          else .group number (.ofLetters on off) body) :: items)

end

/-! ## Whole patterns -/

/-- The first part that a pattern cannot have. -/
def refusal? (template : Bool) : Tree → Option Cause
  | .concat first second => (refusal? template first).or (refusal? template second)
  | .alternate first second => (refusal? template first).or (refusal? template second)
  | .group _ _ body => refusal? template body
  | .atomic body => refusal? template body
  | .conditional _ present absent => (refusal? template present).or (refusal? template absent)
  | .repetition greed _ _ body =>
    if template then
      some (.repeatInTemplate (match greed with
        | .longest => "MAX_REPEAT"
        | .shortest => "MIN_REPEAT"
        | .possessive => "POSSESSIVE_REPEAT"))
    else refusal? template body
  | .lookAhead _ body => refusal? template body
  | .lookBehind _ width body =>
    if width.least ≥ Nat.pow 2 32 then some .lookBehindTooWide
    else if width.least != width.most then some .lookBehindNotFixed
    else refusal? template body
  | _ => none

def readWhole (fuel : Nat) : Reading Tree := do
  refuseDangling
  let tree ← readAlternatives fuel { top := true, first := true, verbose := false }
  let cursor ← get
  if cursor.whole.flags.ascii && cursor.whole.unicode then throw { cause := .alphabetsInConflict }
  if !cursor.rest.isEmpty then fail .unbalancedParenthesis
  if let some (number, position) := cursor.conditions.find? (·.1 ≥ cursor.nextGroup) then
    failAt (.invalidReference number) position
  if let some cause := refusal? cursor.whole.template tree then throw { cause := cause }
  return tree

end ImageLint.Pattern

namespace ImageLint

/-- A pattern that has been read: its tree, and the flags it starts with. -/
structure Pattern where
  tree : Pattern.Tree
  flags : Pattern.Flags
  deriving Repr

namespace Pattern

/-- Reads a pattern, with the given flags already on, where names stand for
characters. -/
def readNaming (named? : Text → Option Char) (source : Text) (flags : Flags := {}) :
    Except Fault Pattern := do
  let (tree, cursor) ← ((readWhole (4 * source.length + 8)).run (.start named? source flags)).mapError
    fun fault => { fault with source := source }
  return { tree := tree, flags := cursor.whole.flags }

def read [Characters] (source : Text) (flags : Flags := {}) : Except Fault Pattern :=
  readNaming Characters.named? source flags

end Pattern

end ImageLint
