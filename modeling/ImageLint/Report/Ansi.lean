-- Decorations as control sequences, and a terminal that does not show them.
import ImageLint.Report.Style
import ImageLint.Text.Names
import ImageLint.Text.Quoted

namespace ImageLint.Report.Ansi

/-! ## Control sequences -/

def colourCode : Colour → Nat
  | .red => 31
  | .green => 32
  | .yellow => 33
  | .blue => 34
  | .cyan => 36

/-- The codes of a decoration: its colour first, then bold, then faint. -/
def codes (decoration : Decoration) : List Nat :=
  decoration.colour.toList.map colourCode ++
    (if decoration.bold then [1] else []) ++ if decoration.dim then [2] else []

def control (code : Nat) : Text := escape :: '[' :: Text.ofNat code ++ ['m']

/-- The text after the sequences of a decoration, and before the one that ends
them all. -/
def style : Style := fun decoration text =>
  (codes decoration).flatMap control ++ text ++ control 0

/-! ## Texts without control sequences -/

/-- A character inside a control sequence, before its last one. -/
def isParameter (c : Char) : Bool := c.isDigit || c == ';' || c == '?'

/-- The length of a control sequence whose opening character is read, if it
is one. -/
def controlLength? : Text → Option Nat
  | '[' :: rest =>
    let parameters := rest.takeWhile isParameter
    match rest.drop parameters.length with
    | last :: _ => if last.isAlpha then some (parameters.length + 2) else none
    | [] => none
  | _ => none

/-- The text after its first `skip` characters, without control sequences. -/
def plainFrom : Nat → Text → Text
  | _, [] => []
  | skip + 1, _ :: rest => plainFrom skip rest
  | 0, c :: rest =>
    if c == escape then
      match controlLength? rest with
      | some length => plainFrom length rest
      | none => c :: plainFrom 0 rest
    else c :: plainFrom 0 rest

def plain (text : Text) : Text := plainFrom 0 text

/-! ## The terminal -/

open Characters

def unitName (c : Char) : Text := "\\u" ++ Text.hex 4 (0xD800 + (c.toNat - firstHalf))

/-- What is said of a text with halves of pairs. Only those that stand together
first are named. -/
def refusal? (text : Text) : Option Text :=
  let start := (text.takeWhile (!isPrivateHalf ·)).length
  match (text.drop start).takeWhile isPrivateHalf with
  | [] => none
  | [half] =>
    some ("'utf-8' codec can't encode character " ++ ('\'' :: unitName half ++ ['\'']) ++
      " in position " ++ Text.ofNat start ++ ": surrogates not allowed")
  | halves =>
    some ("'utf-8' codec can't encode characters in position " ++ Text.ofNat start ++ "-" ++
      Text.ofNat (start + halves.length - 1) ++ ": surrogates not allowed")

/-- A terminal without decorations, which prints all characters. -/
def terminal (columns : Int) : Terminal where
  columns := columns
  style := style
  shown := plain
  refusal? := refusal?

end ImageLint.Report.Ansi
