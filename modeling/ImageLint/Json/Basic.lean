-- JSON values. An integer and a number with a fraction or an exponent are
-- told apart, and the fields of an object keep their order.
import ImageLint.Number.Binary64
import ImageLint.Text.Basic

namespace ImageLint

inductive Json where
  | null
  | bool (value : Bool)
  | int (value : Int)
  | float (value : Binary64)
  | str (value : Text)
  | arr (items : List Json)
  | obj (fields : List (Text × Json))
  deriving Inhabited

namespace Json

def field? (name : Text) : Json → Option Json
  | .obj fields => fields.lookup name
  | _ => none

/-- A field set to a value: in its old place if the object has it, else at
the end. -/
def setField (name : Text) (value : Json) : List (Text × Json) → List (Text × Json)
  | [] => [(name, value)]
  | (key, old) :: rest =>
    if key == name then (key, value) :: rest else (key, old) :: setField name value rest

def asText? : Json → Option Text
  | .str value => some value
  | _ => none

def asTexts? : Json → Option (List Text)
  | .arr items => items.mapM asText?
  | _ => none

end Json

end ImageLint
