-- Floating-point numbers as people write them: blanks around, a sign, digits
-- of any script with a point and an exponent, or the name of a value that is
-- not finite.
import ImageLint.Number.Binary64
import ImageLint.Text.Basic
import ImageLint.Unicode.Word

namespace ImageLint.Binary64

/-- The value of the digits at the start of a text, their number, and the
rest. -/
def readDigits : Text → Nat × Nat × Text :=
  go 0 0
where
  go (value count : Nat) : Text → Nat × Nat × Text
    | [] => (value, count, [])
    | c :: rest =>
      match Unicode.digitValue? c with
      | some digit => go (10 * value + digit) (count + 1) rest
      | none => (value, count, c :: rest)

/-- A sign at the start of a text, and the rest. -/
def readSign : Text → Bool × Text
  | '-' :: rest => (true, rest)
  | '+' :: rest => (false, rest)
  | rest => (false, rest)

/-- The exponent that a text is, or zero if there is none. -/
def readExponent? : Text → Option Int
  | [] => some 0
  | e :: rest =>
    if e != 'e' && e != 'E' then none
    else
      let (negative, rest) := readSign rest
      match readDigits rest with
      | (value, _ + 1, []) => some (if negative then -(value : Int) else value)
      | _ => none

/-- The number that digits with a point and an exponent write. -/
def readFinite? (negative : Bool) (s : Text) : Option Binary64 := do
  let (whole, wholeCount, rest) := readDigits s
  let (fraction, fractionCount, rest) := match rest with
    | '.' :: rest => readDigits rest
    | _ => (0, 0, rest)
  if wholeCount + fractionCount = 0 then none
  let exponent ← readExponent? rest
  return ofDecimal negative (whole * Nat.pow 10 fractionCount + fraction) (exponent - fractionCount)

def read? (s : Text) : Option Binary64 :=
  let (negative, unsigned) := readSign (Text.strip s)
  let name := String.ofList (unsigned.map Char.toLower)
  if name == "inf" || name == "infinity" then some (.infinity negative)
  else if name == "nan" then some .nan
  else readFinite? negative unsigned

end ImageLint.Binary64
