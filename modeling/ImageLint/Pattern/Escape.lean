-- Escapes: what a backslash and the characters after it stand for.
import ImageLint.Pattern.Cursor

namespace ImageLint.Pattern

/-! ## Numbers -/

def isOctal (c : Char) : Bool := '0' ≤ c && c ≤ '7'

def isHex (c : Char) : Bool := (Text.hexValue? c).isSome

def valueIn (base : Nat) (digits : Text) : Nat :=
  digits.foldl (fun value c => base * value + (Text.hexValue? c).getD 0) 0

def isAsciiLetter (c : Char) : Bool := c.isAlpha

/-! ## Simple escapes -/

/-- The control characters with an escape of their own. -/
def controlEscape? (c : Char) : Option Nat :=
  [('a', 7), ('b', 8), ('f', 12), ('n', 10), ('r', 13), ('t', 9), ('v', 11), ('\\', 92)].lookup c

/-- The classes with an escape of their own. -/
def categoryEscape? (c : Char) : Option SetItem :=
  [('d', .category .digit false), ('D', .category .digit true),
    ('s', .category .space false), ('S', .category .space true),
    ('w', .category .word false), ('W', .category .word true)].lookup c

/-- The places with an escape of their own. -/
def anchorEscape? (c : Char) : Option Anchor :=
  [('A', .textStart), ('b', .boundary), ('B', .notBoundary), ('Z', .textEnd)].lookup c

/-- A character given by exactly `count` hexadecimal digits after `start`. -/
def hexEscape (start : Text) (count : Nat) : Reading Nat := do
  let digits ← takeWhile isHex count
  let escape := start ++ digits
  if digits.length != count then fail (.incompleteEscape escape) escape.length
  let code := valueIn 16 digits
  if code > 0x10FFFF then fail (.badEscape escape) escape.length
  return code

def namedEscape : Reading Nat := do
  if !(← accept '\x7b') then fail .missingBrace
  let name ← takeName '\x7d' "character name"
  match (← get).named? name with
  | some c => return c.toNat
  | none => fail (.undefinedCharacter name) (name.length + 4)

/-- The character of an escape that is a number or a name, if `c` starts one. -/
def codeEscape? (c : Char) : Reading (Option Nat) := do
  if c == 'x' then return some (← hexEscape ['\\', c] 2)
  else if c == 'u' then return some (← hexEscape ['\\', c] 4)
  else if c == 'U' then return some (← hexEscape ['\\', c] 8)
  else if c == 'N' then return some (← namedEscape)
  else return none

/-- An escape that stands for its own character. Letters do not. -/
def plainEscape (c : Char) : Reading Nat := do
  if isAsciiLetter c then fail (.badEscape ['\\', c]) 2
  return c.toNat

/-! ## In a set and outside -/

/-- The member that the escape of `c` stands for in a set. -/
def setEscape (c : Char) : Reading SetItem := do
  if let some code := controlEscape? c then return .char code
  if let some item := categoryEscape? c then return item
  if let some code ← codeEscape? c then return .char code
  if isOctal c then
    let escape := '\\' :: c :: (← takeWhile isOctal 2)
    let code := valueIn 8 (escape.drop 1)
    if code > 0xFF then fail (.octalTooLarge escape) escape.length
    return .char code
  if c.isDigit then fail (.badEscape ['\\', c]) 2
  return .char (← plainEscape c)

/-- Refuses a group that is open, or opened in the look-behind being read. -/
def checkLookBehindGroup (number : Nat) : Reading Unit := do
  let cursor ← get
  if let some count := cursor.beforeLookBehind then
    if (cursor.groupWidth? number).isNone then fail .openGroup
    if number > count then fail .groupOfSameLookBehind

/-- A reference to a group by number, `escape` being its text. -/
def groupReference (escape : Text) : Reading Tree := do
  let number := valueIn 10 (escape.drop 1)
  let cursor ← get
  if number ≥ cursor.nextGroup then fail (.invalidReference number) (escape.length - 1)
  if (cursor.groupWidth? number).isNone then fail .openGroup escape.length
  checkLookBehindGroup number
  return .recall number

/-- The escape of a digit that is not zero: three octal digits are a
character, anything else is a group. -/
def digitEscape (c : Char) : Reading Tree := do
  match ← takeWhile Char.isDigit 1 with
  | [second] =>
    if isOctal c && isOctal second then
      match ← takeWhile isOctal 1 with
      | [third] =>
        let escape := ['\\', c, second, third]
        let code := valueIn 8 (escape.drop 1)
        if code > 0xFF then fail (.octalTooLarge escape) escape.length
        return .char code
      | _ => groupReference ['\\', c, second]
    else groupReference ['\\', c, second]
  | _ => groupReference ['\\', c]

/-- What the escape of `c` stands for outside a set. -/
def treeEscape (c : Char) : Reading Tree := do
  if let some anchor := anchorEscape? c then return .anchor anchor
  if let some item := categoryEscape? c then return .set false [item]
  if let some code := controlEscape? c then return .char code
  if let some code ← codeEscape? c then return .char code
  if c == '0' then return .char (valueIn 8 (← takeWhile isOctal 2))
  if c.isDigit then digitEscape c
  else return .char (← plainEscape c)

end ImageLint.Pattern
