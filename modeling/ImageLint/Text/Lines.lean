-- The lines of a text. A line ends at any of ten characters or at a
-- carriage return with its line feed; a text that ends with a line end has
-- no empty line after it.
import ImageLint.Text.Basic

namespace ImageLint.Text

def isLineEnd (c : Char) : Bool :=
  let n := c.toNat
  (10 ≤ n && n ≤ 13) || (28 ≤ n && n ≤ 30) || n == 0x85 || n == 0x2028 || n == 0x2029

/-- The lines of a text, without their line ends. -/
def lines : Text → List Text
  | [] => []
  | '\r' :: '\n' :: rest => [] :: lines rest
  | c :: rest =>
    if isLineEnd c then [] :: lines rest
    else match lines rest with
      | [] => [[c]]
      | line :: more => (c :: line) :: more

/-- The stripped line, unless it is blank or a comment. -/
def significant? (line : Text) : Option Text :=
  match strip line with
  | [] => none
  | '#' :: _ => none
  | stripped => some stripped

/-- Every line end of a file written as a line feed: a carriage return, with
or without a line feed after it, becomes one line feed. -/
def unifyLineEnds : Text → Text
  | [] => []
  | '\r' :: '\n' :: rest => '\n' :: unifyLineEnds rest
  | c :: rest => (if c == '\r' then '\n' else c) :: unifyLineEnds rest

end ImageLint.Text
