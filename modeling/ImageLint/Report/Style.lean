-- Colours and emphasis of texts, and where reports are printed. What a
-- decoration looks like is left to the terminal.
import ImageLint.Text.Basic

namespace ImageLint.Report

inductive Colour where
  | red
  | green
  | yellow
  | blue
  | cyan
  deriving DecidableEq, Repr

structure Decoration where
  colour : Option Colour := none
  bold : Bool := false
  dim : Bool := false
  deriving DecidableEq, Repr

abbrev Style := Decoration → Text → Text

namespace Style

def coloured (style : Style) (colour : Colour) : Text → Text := style { colour := some colour }

def bold (style : Style) : Text → Text := style { bold := true }

def dim (style : Style) : Text → Text := style { dim := true }

def boldColoured (style : Style) (colour : Colour) : Text → Text :=
  style { colour := some colour, bold := true }

end Style

structure Terminal where
  columns : Int
  style : Style
  /-- What is shown of a text, with its decorations or without them. -/
  shown : Text → Text
  /-- What is said of a text that cannot be printed. -/
  refusal? : Text → Option Text

def escape : Char := Char.ofNat 27

end ImageLint.Report
