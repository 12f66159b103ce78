-- Integers as people write them: blanks around, a sign, digits of any
-- script, and single underscores between digits.
import ImageLint.Text.Basic
import ImageLint.Unicode.Word

namespace ImageLint.Integer

/-- The value of a digit in a base. Letters follow the digits of a script. -/
def digitIn? (base : Nat) (c : Char) : Option Nat :=
  let letter := c.toLower
  let value? := Unicode.digitValue? c <|>
    (if 'a' ≤ letter && letter ≤ 'z' then some (letter.toNat - 0x57) else none)
  value?.filter (· < base)

/-- The value of digits in a base, single underscores between them allowed.
`value` is what was read before; `fresh` says that a digit must come next. -/
def readDigits (base : Nat) : Nat → Bool → Text → Option Nat
  | value, fresh, [] => if fresh then none else some value
  | value, fresh, c :: rest =>
    match digitIn? base c with
    | some digit => readDigits base (base * value + digit) false rest
    | none => if c == '_' && !fresh then readDigits base value true rest else none

def baseLetter? (base : Nat) : Option Char :=
  if base = 2 then some 'b' else if base = 8 then some 'o' else if base = 16 then some 'x' else none

/-- The digits without the mark of their base. -/
def dropBaseMark (base : Nat) : Text → Text
  | '0' :: letter :: rest =>
    if baseLetter? base == some letter.toLower then rest else '0' :: letter :: rest
  | digits => digits

def isTooLong (s : Text) : Bool :=
  Text.digitLimit < s.countP fun c => (digitIn? 10 c).isSome

/-- The integer that a text writes in a base. The digits of base ten are limited. -/
def readIn? (base : Nat) (s : Text) : Option Int :=
  if base = 10 && isTooLong s then none else
  let value? := fun (digits : Text) => readDigits base 0 true (dropBaseMark base digits)
  match Text.strip s with
  | '-' :: digits => (value? digits).map fun n => -(n : Int)
  | '+' :: digits => (value? digits).map fun n => (n : Int)
  | digits => (value? digits).map fun n => (n : Int)

def read? (s : Text) : Option Int := readIn? 10 s

end ImageLint.Integer
