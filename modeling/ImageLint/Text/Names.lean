-- The names of the printable ASCII characters, and characters that stand for
-- the halves of pairs: what a run uses where nothing else is known.
import ImageLint.Text.Characters

namespace ImageLint.Characters

/-! ## Names -/

/-- The names of the characters before the letters, from the space on. -/
def signNames : List Text := List.map String.toList [
  "SPACE", "EXCLAMATION MARK", "QUOTATION MARK", "NUMBER SIGN", "DOLLAR SIGN", "PERCENT SIGN",
  "AMPERSAND", "APOSTROPHE", "LEFT PARENTHESIS", "RIGHT PARENTHESIS", "ASTERISK", "PLUS SIGN",
  "COMMA", "HYPHEN-MINUS", "FULL STOP", "SOLIDUS", "DIGIT ZERO", "DIGIT ONE", "DIGIT TWO",
  "DIGIT THREE", "DIGIT FOUR", "DIGIT FIVE", "DIGIT SIX", "DIGIT SEVEN", "DIGIT EIGHT",
  "DIGIT NINE", "COLON", "SEMICOLON", "LESS-THAN SIGN", "EQUALS SIGN", "GREATER-THAN SIGN",
  "QUESTION MARK", "COMMERCIAL AT"]

/-- The names of the characters between the capital and the small letters. -/
def middleNames : List Text := [
  "LEFT SQUARE BRACKET", "REVERSE SOLIDUS", "RIGHT SQUARE BRACKET", "CIRCUMFLEX ACCENT",
  "LOW LINE", "GRAVE ACCENT"]

def lastNames : List Text := [
  "LEFT CURLY BRACKET", "VERTICAL LINE", "RIGHT CURLY BRACKET", "TILDE"]

/-- The names of the letters of one size, with what they start with. -/
def letterNames (start : Text) : List Text :=
  "ABCDEFGHIJKLMNOPQRSTUVWXYZ".toList.map fun letter => start ++ [letter]

/-- The names of the printable ASCII characters, from the space on. -/
def asciiNames : List Text :=
  signNames ++ letterNames "LATIN CAPITAL LETTER " ++ middleNames ++
    letterNames "LATIN SMALL LETTER " ++ lastNames

/-- The ASCII character with a name, in any letter case. -/
def asciiNamed? (name : Text) : Option Char :=
  (asciiNames.findIdx? (· == name.map Char.toUpper)).map fun place => Char.ofNat (0x20 + place)

/-! ## Halves of pairs -/

/-- The first of the private-use characters that stand for halves. There is one
for each half. -/
def firstHalf : Nat := 0x10A000

/-- The private-use character that stands for half of a pair. -/
def privateHalf (unit : Nat) : Char := Char.ofNat (firstHalf + (unit - 0xD800))

/-- The character stands for half of a pair. -/
def isPrivateHalf (c : Char) : Bool := firstHalf ≤ c.toNat && c.toNat < firstHalf + 0x800

scoped instance usual : Characters where
  named? := asciiNamed?
  half := privateHalf

end ImageLint.Characters
