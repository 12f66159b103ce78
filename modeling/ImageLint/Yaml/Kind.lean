-- The kinds of nodes: what a tag says, and what a scalar without a tag looks
-- like.
import ImageLint.Yaml.Timestamp

namespace ImageLint.Yaml

inductive Kind where
  | null
  | bool
  | int
  | float
  | binary
  | timestamp
  | str
  | seq
  | map
  | set
  | omap
  | pairs
  /-- The key that takes in the entries of other mappings. -/
  | merge
  /-- The key of the value that stands for its mapping. -/
  | value
  | unknown
  deriving DecidableEq, Repr

namespace Kind

/-! ## Tags -/

def tagStart : Text := "tag:yaml.org,2002:"

def tagged : List (Text × Kind) := [
  ("null", .null), ("bool", .bool), ("int", .int), ("float", .float), ("binary", .binary),
  ("timestamp", .timestamp), ("str", .str), ("seq", .seq), ("map", .map), ("set", .set),
  ("omap", .omap), ("pairs", .pairs), ("merge", .merge), ("value", .value)]

def ofTag (tag : Text) : Kind :=
  if tagStart.isPrefixOf tag then (tagged.lookup (tag.drop tagStart.length)).getD .unknown
  else .unknown

/-! ## Scalars without a tag -/

/-- The text without a sign at its start. -/
def unsigned : Text → Text
  | '-' :: rest => rest
  | '+' :: rest => rest
  | s => s

def isDigitOrMark (c : Char) : Bool := c.isDigit || c == '_'

def isWhole : Text → Bool
  | c :: rest => c.isDigit && rest.all isDigitOrMark
  | [] => false

def isSixtieth : Text → Bool
  | [c] => c.isDigit
  | [a, b] => '0' ≤ a && a ≤ '5' && b.isDigit
  | _ => false

/-- A number to the base sixty: parts with colons between them. -/
def isSixties (s : Text) : Bool :=
  match Text.splitWhere (· == ':') s with
  | whole :: part :: parts => isWhole whole && (part :: parts).all isSixtieth
  | _ => false

/-- A text that is not empty and has only characters that satisfy `p` or
underscores. -/
def isRun (p : Char → Bool) (s : Text) : Bool := !s.isEmpty && s.all fun c => p c || c == '_'

/-- An integer. A leading zero makes it octal. -/
def isInt (s : Text) : Bool :=
  match unsigned s with
  | ['0'] => true
  | '0' :: 'b' :: rest => isRun (fun c => c == '0' || c == '1') rest
  | '0' :: 'x' :: rest => isRun (fun c => (Text.hexValue? c).isSome) rest
  | '0' :: rest => isRun (fun c => '0' ≤ c && c ≤ '7') rest
  | rest => isWhole rest || isSixties rest

/-- The exponent of a number, which has a sign, or nothing. -/
def isExponent : Text → Bool
  | [] => true
  | e :: sign :: rest =>
    (e == 'e' || e == 'E') && (sign == '+' || sign == '-') && !rest.isEmpty && rest.all Char.isDigit
  | _ => false

def infinities : List Text := [".inf", ".Inf", ".INF"]

def notNumbers : List Text := [".nan", ".NaN", ".NAN"]

def isFloat (s : Text) : Bool :=
  infinities.contains (unsigned s) || notNumbers.contains s ||
    match Text.cutAt '.' s with
    | none => false
    | some (whole, fraction) =>
      let exponent := fraction.dropWhile isDigitOrMark
      (isWhole (unsigned whole) && isExponent exponent) ||
        (whole.isEmpty && isWhole (fraction.takeWhile isDigitOrMark) && isExponent exponent) ||
        (isSixties (unsigned whole) && exponent.isEmpty)

def truths : List Text := ["yes", "Yes", "YES", "true", "True", "TRUE", "on", "On", "ON"]

def untruths : List Text := ["no", "No", "NO", "false", "False", "FALSE", "off", "Off", "OFF"]

def nulls : List Text := ["", "~", "null", "Null", "NULL"]

def reserved : List Text := ["!", "&", "*"]

/-- The kind of a scalar that has no tag and stands without quotes. -/
def ofPlain (s : Text) : Kind :=
  if truths.contains s || untruths.contains s then .bool
  else if isFloat s then .float
  else if isInt s then .int
  else if s == "<<".toList then .merge
  else if nulls.contains s then .null
  else if Timestamp.isPlain s then .timestamp
  else if s == "=".toList then .value
  else if reserved.contains s then .unknown
  else .str

end Kind

end ImageLint.Yaml
