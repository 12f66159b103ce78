-- Paths of files. Empty components and single dots mean nothing and are left
-- out; two dots stay, because what they mean depends on links.
import ImageLint.Text.Basic

namespace ImageLint

/-- A path: how it is rooted, and its components. -/
structure Path where
  root : Text := []
  parts : List Text := []
  deriving DecidableEq, Repr

namespace Path

/-- The root of a path with so many leading slashes. Three or more count as
one. -/
def rootOf (slashes : Nat) : Text :=
  if slashes = 0 then [] else if slashes = 2 then "//" else "/"

def ofText (s : Text) : Path :=
  { root := rootOf (s.takeWhile (· == '/')).length
    parts := (Text.splitWhere (· == '/') s).filter fun part => !part.isEmpty && part != ['.'] }

def text (path : Path) : Text :=
  let joined := path.root ++ Text.joinWith ['/'] path.parts
  if joined.isEmpty then "." else joined

def child (path : Path) (name : Text) : Path := { path with parts := path.parts ++ [name] }

end Path

end ImageLint
