-- The shortest decimal that reads back as a given floating-point number,
-- and how it is written.
import ImageLint.Number.Binary64
import ImageLint.Text.Basic

namespace ImageLint.Binary64

/-! ## Digits -/

/-- A positive decimal: `digits * 10 ^ exponent`. -/
structure Decimal where
  digits : Nat
  exponent : Int
  deriving DecidableEq, Repr

/-- The numbers that round to `mantissa * 2 ^ exponent`, all in units of a
quarter of its last place: the two ends, and the number itself. The lower
neighbour of a power of two is nearer than the upper one. -/
structure Interval where
  low : Nat
  middle : Nat
  high : Nat
  closed : Bool
  unit : Int

def Interval.of (mantissa : Nat) (exponent : Int) : Interval :=
  let nearBelow := mantissa = Nat.pow 2 52 && leastExponent < exponent
  { low := 4 * mantissa - (if nearBelow then 1 else 2)
    middle := 4 * mantissa
    high := 4 * mantissa + 2
    closed := mantissa % 2 == 0
    unit := exponent - 2 }

/-- `a * 2 ^ unit` compared with `digits * 10 ^ exponent`, as two integers in
the same order. -/
def comparable (a : Nat) (unit : Int) (digits : Nat) (exponent : Int) : Nat × Nat :=
  let left := a * Nat.pow 2 unit.toNat * Nat.pow 10 (-exponent).toNat
  let right := digits * Nat.pow 10 exponent.toNat * Nat.pow 2 (-unit).toNat
  (left, right)

def Interval.holds (interval : Interval) (digits : Nat) (exponent : Int) : Bool :=
  let (low, here) := comparable interval.low interval.unit digits exponent
  let (high, here') := comparable interval.high interval.unit digits exponent
  if interval.closed then low ≤ here && here' ≤ high else low < here && here' < high

/-- How far a decimal is from the middle of the interval. Distances at one
exponent are in one unit. -/
def Interval.distance (interval : Interval) (digits : Nat) (exponent : Int) : Nat :=
  let (middle, here) := comparable interval.middle interval.unit digits exponent
  if middle ≤ here then here - middle else middle - here

/-- The nearest decimal in the interval whose last digit stands at
`10 ^ exponent`, if there is one. Of two equally near the even one. -/
def Interval.nearest? (interval : Interval) (exponent : Int) : Option Decimal :=
  let (middle, one) := comparable interval.middle interval.unit 1 exponent
  let below := middle / one
  let above := below + 1
  match interval.holds below exponent && below != 0, interval.holds above exponent with
  | true, true =>
    let down := interval.distance below exponent
    let up := interval.distance above exponent
    some ⟨if down < up || (down = up && below % 2 = 0) then below else above, exponent⟩
  | true, false => some ⟨below, exponent⟩
  | false, true => some ⟨above, exponent⟩
  | false, false => none

/-- The first of `count` grids, each ten times finer than the one before,
that has a decimal in the interval. -/
def Interval.coarsest? (interval : Interval) : Nat → Int → Option Decimal
  | 0, _ => none
  | count + 1, exponent =>
    (interval.nearest? exponent).or (interval.coarsest? count (exponent - 1))

/-- The decimal with the fewest digits that rounds to a finite number, and
among those the nearest to it. -/
def shortest (mantissa : Nat) (exponent : Int) : Decimal :=
  let interval := Interval.of mantissa exponent
  let magnitude : Int := mantissa.log2 + exponent
  -- An upper bound on the place of the first digit: ten lies between eight and sixteen.
  let top : Int := (if 0 ≤ magnitude then magnitude / 3 else magnitude / 4) + 2
  (interval.coarsest? 420 top).getD ⟨0, 0⟩

/-- The digits of a decimal without trailing zeros, and the place of the
decimal point after the first digit. -/
def Decimal.layout (d : Decimal) : Text × Int :=
  let digits := Text.ofNat d.digits
  ((digits.reverse.dropWhile (· == '0')).reverse, d.exponent + digits.length)

/-! ## Text -/

/-- Where positional notation ends: the number is written with an exponent
when its decimal point stands further left or further right. -/
structure NumberFormat where
  leastPoint : Int
  greatestPoint : Int
  exponentWidth : Nat
  infinityText : Text
  nanText : Text

/-- A number in a configuration value has positional notation from 0.0001 up
to 16 digits, keeps one place after the point, and an exponent has a sign
and two digits. -/
def valueFormat : NumberFormat :=
  { leastPoint := -3
    greatestPoint := 16
    exponentWidth := 2
    infinityText := "inf"
    nanText := "nan" }

/-- `digits` with the decimal point before the digit at `point`. -/
def positional (digits : Text) (point : Int) : Text :=
  if point ≤ 0 then "0." ++ List.replicate (-point).toNat '0' ++ digits
  else if digits.length ≤ point.toNat then
    digits ++ List.replicate (point.toNat - digits.length) '0' ++ ".0"
  else digits.take point.toNat ++ "." ++ digits.drop point.toNat

/-- `digits` with the point after the first one and an exponent. -/
def scientific (format : NumberFormat) (digits : Text) (point : Int) : Text :=
  let exponent := Text.ofNat (point - 1).natAbs
  let padded := List.replicate (format.exponentWidth - exponent.length) '0' ++ exponent
  digits.take 1 ++ (if digits.length ≤ 1 then [] else '.' :: digits.drop 1) ++
    ('e' :: (if point - 1 < 0 then '-' else '+') :: padded)

def sign (negative : Bool) : Text := if negative then ['-'] else []

/-- The text of `mantissa * 2 ^ exponent` in a given format. -/
def renderFinite (format : NumberFormat) (mantissa : Nat) (exponent : Int) : Text :=
  let (digits, point) := (shortest mantissa exponent).layout
  if mantissa = 0 then "0.0"
  else if format.leastPoint ≤ point && point ≤ format.greatestPoint then positional digits point
  else scientific format digits point

def render (format : NumberFormat) : Binary64 → Text
  | .nan => format.nanText
  | .infinity negative => sign negative ++ format.infinityText
  | .finite negative mantissa exponent => sign negative ++ renderFinite format mantissa exponent

def toText (x : Binary64) : Text := render valueFormat x

end ImageLint.Binary64
