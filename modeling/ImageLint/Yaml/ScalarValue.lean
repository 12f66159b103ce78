-- The values of scalars of each kind.
import ImageLint.Number.Decimal
import ImageLint.Number.Integer
import ImageLint.Unicode.Casing
import ImageLint.Yaml.Fault
import ImageLint.Yaml.Kind
import ImageLint.Yaml.Value

namespace ImageLint.Yaml

/-! ## Truth values -/

/-- The truth value of a text. Its case does not matter. -/
def readBool (s : Text) : Except Fault Bool :=
  let name := lower s
  if Kind.truths.contains name then return true
  else if Kind.untruths.contains name then return false
  else throw (.notTruth name)

/-! ## Numbers -/

/-- The text without underscores, its sign apart. Something must be left of
it. -/
def signedParts (s : Text) : Except Fault (Bool × Text) :=
  match s.filter (· != '_') with
  | [] => throw .emptyNumber
  | '-' :: rest => return (true, rest)
  | '+' :: rest => return (false, rest)
  | rest => return (false, rest)

def integerIn (base : Nat) (s : Text) : Except Fault Int :=
  match Integer.readIn? base s with
  | some value => return value
  | none =>
    if base = 10 && Integer.isTooLong s then throw (.tooManyDigits s.length)
    else throw (.notInteger base s)

def readUnsigned (s : Text) : Except Fault Int :=
  match s with
  | [] => throw .emptyNumber
  | '0' :: 'b' :: digits => integerIn 2 digits
  | '0' :: 'x' :: digits => integerIn 16 digits
  | '0' :: _ => integerIn 8 s
  | _ =>
    if s.contains ':' then do
      let parts ← (Text.splitWhere (· == ':') s).mapM (integerIn 10)
      return parts.foldl (fun value part => 60 * value + part) 0
    else integerIn 10 s

def readInt (s : Text) : Except Fault Int := do
  let (negative, digits) ← signedParts s
  let value ← readUnsigned digits
  return if negative then -value else value

def floatOf (s : Text) : Except Fault Binary64 :=
  match Binary64.read? s with
  | some value => return value
  | none => throw (.notNumber s)

/-- The number of an unsigned text. In base sixty the parts are added from the
last one on, each step rounded. -/
def readUnsignedFloat (s : Text) : Except Fault Binary64 :=
  if s == ".inf".toList then return .infinity false
  else if s == ".nan".toList then return .nan
  else if s.contains ':' then do
    let parts ← (Text.splitWhere (· == ':') s).mapM floatOf
    let (value, _) := parts.reverse.foldl
      (fun (value, factor) part => (value.plus (part.timesNat factor), factor * 60))
      (Binary64.zero, 1)
    return value
  else floatOf s

def readFloat (s : Text) : Except Fault Binary64 := do
  let (negative, digits) ← signedParts (lower s)
  let value ← readUnsignedFloat digits
  return if negative then value.negate else value

/-! ## Bytes -/

def sixBits? (c : Char) : Option Nat :=
  if 'A' ≤ c && c ≤ 'Z' then some (c.toNat - 0x41)
  else if 'a' ≤ c && c ≤ 'z' then some (c.toNat - 0x47)
  else if '0' ≤ c && c ≤ '9' then some (c.toNat + 4)
  else if c == '+' then some 62
  else if c == '/' then some 63
  else none

/-- The bytes of digits to the base sixty-four. `held` are the bits that make
no byte yet, `place` the number of digits in the group of four, and `pads` the
number of filling signs just before. Other characters are skipped, and the
last group must be full. -/
def readBytes (held place pads : Nat) : Text → Option (List UInt8)
  | [] => if place = 0 then some [] else none
  | c :: rest =>
    if c == '=' then
      if 2 ≤ place && 4 ≤ place + pads + 1 then some []
      else readBytes held place (if 2 ≤ place then pads + 1 else pads) rest
    else match sixBits? c with
      | none => readBytes held place pads rest
      | some bits =>
        let all := held * 64 + bits
        if place = 0 then readBytes bits 1 0 rest
        else
          let kept := Nat.pow 2 (6 - 2 * place)
          (readBytes (all % kept) ((place + 1) % 4) 0 rest).map ((all / kept).toUInt8 :: ·)

def readBinary (s : Text) : Except Fault (List UInt8) :=
  if s.all fun c => c.toNat < 0x80 then
    match readBytes 0 0 0 s with
    | some bytes => return bytes
    | none => throw .malformed
  else throw .malformed

/-! ## Days and moments -/

/-- The day or moment of a text, which the calendar must have. -/
def readTimestamp (s : Text) : Except Fault Value :=
  match Timestamp.read? s with
  | none => throw .notDate
  | some stamp =>
    match stamp.problem?, stamp with
    | some problem, _ => throw (.badDate problem)
    | none, .day date => return .date date
    | none, .moment moment => return .moment moment

/-! ## All kinds -/

/-- The value of a scalar. Some kinds are not for scalars. -/
def scalarValue (kind : Kind) (s : Text) : Except Fault Value :=
  match kind with
  | .null => return .null
  | .bool => return .bool (← readBool s)
  | .int => return .int (← readInt s)
  | .float => return .float (← readFloat s)
  | .binary => return .bytes (← readBinary s)
  | .timestamp => readTimestamp s
  | .str => return .str s
  | .seq | .map | .set | .omap | .pairs | .merge | .value | .unknown => throw .malformed

end ImageLint.Yaml
