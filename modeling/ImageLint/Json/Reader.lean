-- Reading JSON. A control character inside a string is refused, the names
-- NaN and Infinity are numbers, and of two fields with one name the last
-- value stays.
import ImageLint.Json.Basic
import ImageLint.Text.Code

namespace ImageLint.Json

/-! ## Strings -/

def isSpace (c : Char) : Bool := c == ' ' || c == '\t' || c == '\n' || c == '\r'

def skipSpaces (s : Text) : Text := s.dropWhile isSpace

def unit? (a b c d : Char) : Option Nat := do
  let a ← Text.hexValue? a
  let b ← Text.hexValue? b
  let c ← Text.hexValue? c
  let d ← Text.hexValue? d
  return ((a * 16 + b) * 16 + c) * 16 + d

def escaped? (c : Char) : Option Char :=
  if c == '"' || c == '\\' || c == '/' then some c
  else if c == 'b' then some (Char.ofNat 8)
  else if c == 'f' then some (Char.ofNat 12)
  else if c == 'n' then some '\n'
  else if c == 'r' then some '\r'
  else if c == 't' then some '\t'
  else none

/-- The units of a string up to its closing quote, and the text after it. An
unescaped character is one unit, whatever its size. -/
def readUnits : Text → Option (List Nat × Text)
  | [] => none
  | '"' :: rest => some ([], rest)
  | '\\' :: 'u' :: a :: b :: c :: d :: rest => do
    let unit ← unit? a b c d
    let (units, rest) ← readUnits rest
    return (unit :: units, rest)
  | '\\' :: c :: rest => do
    let char ← escaped? c
    let (units, rest) ← readUnits rest
    return (char.toNat :: units, rest)
  | c :: rest =>
    if c.toNat < 0x20 || c == '\\' then none
    else do
      let (units, rest) ← readUnits rest
      return (c.toNat :: units, rest)

variable [Characters]

/-- The characters of a list of units, each pair joined. -/
def joinUnits : List Nat → Text
  | [] => []
  | [unit] => [Text.unitChar unit]
  | unit :: next :: rest =>
    if Text.isHighUnit unit && Text.isLowUnit next then Text.pairChar unit next :: joinUnits rest
    else Text.unitChar unit :: joinUnits (next :: rest)

/-- The characters up to the closing quote, and the text after it. -/
def readChars (s : Text) : Option (Text × Text) :=
  (readUnits s).map fun (units, rest) => (joinUnits units, rest)

/-! ## Numbers -/

/-- The digits after a decimal point, if there are any. -/
def readFraction : Text → Option (Text × Text)
  | '.' :: rest =>
    match rest.takeWhile Char.isDigit with
    | [] => none
    | digits => some (digits, rest.dropWhile Char.isDigit)
  | _ => none

def readExponent : Text → Option (Int × Text)
  | e :: rest =>
    if e != 'e' && e != 'E' then none
    else
      let (negative, unsigned) : Bool × Text := match rest with
        | '-' :: more => (true, more)
        | '+' :: more => (false, more)
        | _ => (false, rest)
      match unsigned.takeWhile Char.isDigit with
      | [] => none
      | digits =>
        let size : Int := Text.digitsValue digits
        some (if negative then -size else size, unsigned.dropWhile Char.isDigit)
  | [] => none

/-- The whole part of a number: a lone zero, or digits that start with none. -/
def readWhole : Text → Option (Text × Text)
  | '0' :: rest => some (['0'], rest)
  | s =>
    match s.takeWhile Char.isDigit with
    | [] => none
    | digits => some (digits, s.dropWhile Char.isDigit)

def readUnsigned (negative : Bool) (s : Text) : Option (Json × Text) := do
  let (whole, rest) ← readWhole s
  let fraction := readFraction rest
  let rest := (fraction.map Prod.snd).getD rest
  let exponent := readExponent rest
  let rest := (exponent.map Prod.snd).getD rest
  if fraction.isNone && exponent.isNone then
    let size : Int := Text.digitsValue whole
    return (.int (if negative then -size else size), rest)
  else
    let places := (fraction.map Prod.fst).getD []
    let power := (exponent.map Prod.fst).getD 0
    return (.float (.ofDecimal negative (Text.digitsValue (whole ++ places)) (power - places.length)),
      rest)

/-- A number, a constant or one of the named numbers. -/
def readAtom (s : Text) : Option (Json × Text) :=
  if Text.startsWith s "null" then some (.null, s.drop 4)
  else if Text.startsWith s "true" then some (.bool true, s.drop 4)
  else if Text.startsWith s "false" then some (.bool false, s.drop 5)
  else if Text.startsWith s "NaN" then some (.float .nan, s.drop 3)
  else if Text.startsWith s "Infinity" then some (.float (.infinity false), s.drop 8)
  else if Text.startsWith s "-Infinity" then some (.float (.infinity true), s.drop 9)
  else match s with
    | '-' :: rest => readUnsigned true rest
    | _ => readUnsigned false s

/-! ## Values -/

mutual

/-- One value at the start of a text. The first argument bounds the depth of
the reading; the length of the text is enough. -/
def readValue : Nat → Text → Option (Json × Text)
  | 0, _ => none
  | _ + 1, '"' :: rest => (readChars rest).map fun (chars, rest) => (.str chars, rest)
  | fuel + 1, '[' :: rest =>
    match skipSpaces rest with
    | ']' :: rest => some (.arr [], rest)
    | rest => (readItems fuel rest).map fun (items, rest) => (.arr items, rest)
  | fuel + 1, '\x7b' :: rest =>
    match skipSpaces rest with
    | '\x7d' :: rest => some (.obj [], rest)
    | rest => (readFields fuel [] rest).map fun (fields, rest) => (.obj fields, rest)
  | _ + 1, s => readAtom s

/-- The items of an array up to its closing bracket. -/
def readItems : Nat → Text → Option (List Json × Text)
  | 0, _ => none
  | fuel + 1, s => do
    let (item, rest) ← readValue fuel s
    match skipSpaces rest with
    | ',' :: rest =>
      let (items, rest) ← readItems fuel (skipSpaces rest)
      return (item :: items, rest)
    | ']' :: rest => return ([item], rest)
    | _ => none

/-- The fields of an object up to its closing brace, added to those read. -/
def readFields : Nat → List (Text × Json) → Text → Option (List (Text × Json) × Text)
  | 0, _, _ => none
  | fuel + 1, fields, '"' :: s => do
    let (name, rest) ← readChars s
    let ':' :: rest := skipSpaces rest | none
    let (value, rest) ← readValue fuel (skipSpaces rest)
    let fields := setField name value fields
    match skipSpaces rest with
    | ',' :: rest => readFields fuel fields (skipSpaces rest)
    | '\x7d' :: rest => return (fields, rest)
    | _ => none
  | _ + 1, _, _ => none

end

def parse? (s : Text) : Option Json :=
  match readValue (s.length + 1) (skipSpaces s) with
  | some (value, rest) => if (skipSpaces rest).isEmpty then some value else none
  | none => none

end ImageLint.Json
