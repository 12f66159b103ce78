-- What is taken from outside about characters: their names, of which there are
-- too many to write out, and what stands for half of a pair of units, which is
-- no character at all.
import ImageLint.Text.Basic

namespace ImageLint

/-- The facts about characters that are not written out. Whatever is said of
patterns and build scripts holds for any of them. -/
class Characters where
  named? : Text → Option Char
  /-- What stands for half of a pair of units by itself. -/
  half : Nat → Char

end ImageLint
