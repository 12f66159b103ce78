-- The name of a container image: its tag, and whether it is known to be
-- light.
import ImageLint.Text.Basic
import ImageLint.Unicode.Casing

namespace ImageLint.ImageReference

/-- The tag of an image, if it has one: what follows the first at-sign, or
else the first colon of the last component. A digest counts as a tag. -/
def tag? (reference : Text) : Option Text :=
  match Text.cutAt '@' reference with
  | some (_, digest) => some digest
  | none => (Text.cutAt ':' (Text.afterLast '/' reference)).map Prod.snd

/-- The image holds one of the marks of light images, in any letter case. -/
def isLightweight (reference : Text) (marks : List Text) : Bool :=
  marks.any fun mark => Text.holds (lower mark) (lower reference)

end ImageLint.ImageReference
