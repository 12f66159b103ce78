-- Floating-point numbers of 53 significant bits, kept as exact integers so
-- that rounding and printing stay within natural-number arithmetic.

namespace ImageLint

/-- A floating-point number. A finite one is `mantissa * 2 ^ exponent` with
the sign given apart, so that zero has two signs. -/
inductive Binary64 where
  | finite (negative : Bool) (mantissa : Nat) (exponent : Int)
  | infinity (negative : Bool)
  | nan
  deriving DecidableEq, Repr

namespace Binary64

/-! ## Rounding -/

/-- The least exponent: that of the numbers nearest to zero. -/
def leastExponent : Int := -1074

def greatestExponent : Int := 971

/-- The quotient rounded to the nearest integer, a half to the even one. -/
def roundQuotient (numerator denominator : Nat) : Nat :=
  let quotient := numerator / denominator
  let doubled := 2 * (numerator % denominator)
  if doubled < denominator then quotient
  else if denominator < doubled then quotient + 1
  else quotient + quotient % 2

def scale (numerator denominator : Nat) (exponent : Int) : Nat × Nat :=
  if 0 ≤ exponent then (numerator * Nat.pow 2 exponent.toNat, denominator)
  else (numerator, denominator * Nat.pow 2 (-exponent).toNat)

/-- The exponent at which a positive fraction has a mantissa of 53 bits, or
the least exponent when that is greater. -/
def exponentOf (numerator denominator : Nat) : Int :=
  let guess : Int := (numerator.log2 : Int) - denominator.log2 - 52
  let (n, d) := scale numerator denominator (-guess)
  max leastExponent (if n < Nat.pow 2 52 * d then guess - 1 else guess)

/-- The number nearest to a fraction, a tie going to the even mantissa. -/
def ofFraction (negative : Bool) (numerator denominator : Nat) : Binary64 :=
  if numerator = 0 then .finite negative 0 leastExponent
  else
    let exponent := exponentOf numerator denominator
    let (n, d) := scale numerator denominator (-exponent)
    let mantissa := roundQuotient n d
    let (mantissa, exponent) :=
      if mantissa = Nat.pow 2 53 then (Nat.pow 2 52, exponent + 1) else (mantissa, exponent)
    if greatestExponent < exponent then .infinity negative
    else .finite negative mantissa exponent

/-- The number nearest to `digits * 10 ^ exponent`. Powers far outside the
range are not computed. -/
def ofDecimal (negative : Bool) (digits : Nat) (exponent : Int) : Binary64 :=
  let size : Int := (Nat.toDigits 10 digits).length
  if digits = 0 || size + exponent < -400 then .finite negative 0 leastExponent
  else if 400 < size + exponent then .infinity negative
  else if 0 ≤ exponent then ofFraction negative (digits * Nat.pow 10 exponent.toNat) 1
  else ofFraction negative digits (Nat.pow 10 (-exponent).toNat)

def zero : Binary64 := .finite false 0 leastExponent

/-! ## Arithmetic -/

def negate : Binary64 → Binary64
  | .finite negative mantissa exponent => .finite (!negative) mantissa exponent
  | .infinity negative => .infinity (!negative)
  | .nan => .nan

def timesNat (factor : Nat) : Binary64 → Binary64
  | .finite negative mantissa exponent =>
    let (n, d) := scale mantissa 1 exponent
    ofFraction negative (n * factor) d
  | other => other

/-- The sum of two numbers that are not negative, rounded. -/
def plus : Binary64 → Binary64 → Binary64
  | .finite _ m e, .finite _ m' e' =>
    let (n, d) := scale m 1 e
    let (n', d') := scale m' 1 e'
    ofFraction false (n * d' + n' * d) (d * d')
  | .nan, _ => .nan
  | _, .nan => .nan
  | .infinity negative, _ => .infinity negative
  | _, .infinity negative => .infinity negative

/-- The integer that a number equals, if there is one. -/
def toInt? : Binary64 → Option Int
  | .finite negative mantissa exponent =>
    let (n, d) := scale mantissa 1 exponent
    if n % d = 0 then some (if negative then -((n / d : Nat) : Int) else (n / d : Nat)) else none
  | _ => none

def isZero : Binary64 → Bool
  | .finite _ mantissa _ => mantissa == 0
  | _ => false

end Binary64

end ImageLint
