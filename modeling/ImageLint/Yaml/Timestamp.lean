-- Days and moments as a document writes them.
import ImageLint.Calendar
import ImageLint.Text.Code

namespace ImageLint.Yaml

inductive Timestamp where
  | day (date : Date)
  | moment (moment : Moment)
  deriving DecidableEq, Repr

namespace Timestamp

/-- A number of `least` to `most` digits at the start of a text, and the
rest. -/
def number? (least most : Nat) (s : Text) : Option (Nat × Text) :=
  let digits := (s.takeWhile Char.isDigit).take most
  if digits.length < least then none else some (Text.digitsValue digits, s.drop digits.length)

/-- The text after the character that must stand at its start. -/
def after? (c : Char) : Text → Option Text
  | d :: rest => if c == d then some rest else none
  | [] => none

/-- A day at the start of a text, and the rest. -/
def date? (s : Text) : Option (Date × Text) := do
  let (year, rest) ← number? 4 4 s
  let (month, rest) ← number? 1 2 (← after? '-' rest)
  let (monthDay, rest) ← number? 1 2 (← after? '-' rest)
  return (⟨year, month, monthDay⟩, rest)

/-- The text after what divides a day from a time: a letter or blanks. -/
def afterDivider? : Text → Option Text
  | 'T' :: rest => some rest
  | 't' :: rest => some rest
  | ' ' :: rest => some (rest.dropWhile fun c => c == ' ' || c == '\t')
  | '\t' :: rest => some (rest.dropWhile fun c => c == ' ' || c == '\t')
  | _ => none

/-- The microseconds of a fraction. Further digits are cut off. -/
def microseconds (digits : Text) : Nat :=
  Text.digitsValue ((digits ++ List.replicate 6 '0').take 6)

/-- A distance from universal time, which a text must be. -/
def offset? : Text → Option Int
  | ['Z'] => some 0
  | sign :: rest => do
    if sign != '+' && sign != '-' then none
    let (hours, rest) ← number? 1 2 rest
    let (minutes, rest) ← match rest with
      | ':' :: rest => number? 2 2 rest
      | _ => some (0, rest)
    if !rest.isEmpty then none
    let seconds : Int := (hours * 60 + minutes) * 60
    return if sign == '-' then -seconds else seconds
  | [] => none

/-- The moment of a day that the rest of a text writes. -/
def momentOn? (date : Date) (s : Text) : Option Moment := do
  let (hour, rest) ← number? 1 2 (← afterDivider? s)
  let (minute, rest) ← number? 2 2 (← after? ':' rest)
  let (second, rest) ← number? 2 2 (← after? ':' rest)
  let (fraction, rest) := match rest with
    | '.' :: rest => (rest.takeWhile Char.isDigit, rest.dropWhile Char.isDigit)
    | _ => ([], rest)
  let offset ← if rest.isEmpty then some none else
    (offset? (rest.dropWhile fun c => c == ' ' || c == '\t')).map some
  return ⟨date, hour, minute, second, microseconds fraction, offset⟩

def read? (s : Text) : Option Timestamp := do
  let (date, rest) ← date? s
  if rest.isEmpty then return .day date
  return .moment (← momentOn? date rest)

/-- A text without a tag is a day or a moment. A day by itself has all its
digits. -/
def isPlain (s : Text) : Bool :=
  match read? s with
  | some (.day _) => s.length == 10
  | some (.moment _) => true
  | none => false

/-- The first problem of a day or moment, if it has one. -/
def problem? : Timestamp → Option DateProblem
  | .day date => date.problem?
  | .moment m => m.problem?

end Timestamp

end ImageLint.Yaml
