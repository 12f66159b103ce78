-- Writing JSON in ASCII, on one line or with each item on a line of its own.
import ImageLint.Json.Basic
import ImageLint.Number.Shortest
import ImageLint.Text.Quoted

namespace ImageLint.Json

/-! ## Strings -/

/-- A code point beyond ASCII as one escaped unit, or as a pair of units. -/
def escapeCode (code : Nat) : Text :=
  if code < 0x10000 then "\\u" ++ Text.hex 4 code
  else
    "\\u" ++ Text.hex 4 (0xD800 + (code - 0x10000) / 0x400) ++
      ("\\u" ++ Text.hex 4 (0xDC00 + (code - 0x10000) % 0x400))

def escapeChar (c : Char) : Text :=
  if c == '"' then "\\\""
  else if c == '\\' then "\\\\"
  else if c == '\n' then "\\n"
  else if c == '\r' then "\\r"
  else if c == '\t' then "\\t"
  else if c.toNat == 8 then "\\b"
  else if c.toNat == 12 then "\\f"
  else if 0x20 ≤ c.toNat && c.toNat < 0x7F then [c]
  else escapeCode c.toNat

def renderString (s : Text) : Text := '"' :: s.flatMap escapeChar ++ ['"']

def floatFormat : Binary64.NumberFormat :=
  { Binary64.valueFormat with infinityText := "Infinity", nanText := "NaN" }

/-! ## Values -/

/-- What stands between the parts of an array or an object: after the
opening bracket, after each comma, and before the closing bracket. -/
structure Layout where
  opening : Text
  between : Text
  closing : Text

def oneLine (_depth : Nat) : Layout := ⟨[], [' '], []⟩

/-- Each item on a line of its own, two blanks further in than its brackets. -/
def indented (depth : Nat) : Layout :=
  let inner := '\n' :: List.replicate (2 * (depth + 1)) ' '
  ⟨inner, inner, '\n' :: List.replicate (2 * depth) ' '⟩

mutual

/-- A value at some depth. An empty array or object is just its brackets. -/
def renderAt (layout : Nat → Layout) (depth : Nat) : Json → Text
  | .null => "null"
  | .bool true => "true"
  | .bool false => "false"
  | .int value => Text.ofInt value
  | .float value => Binary64.render floatFormat value
  | .str value => renderString value
  | .arr [] => "[]"
  | .arr (item :: items) =>
    '[' :: (layout depth).opening ++ renderAt layout (depth + 1) item ++
      renderItems layout depth items ++ (layout depth).closing ++ [']']
  | .obj [] => ['\x7b', '\x7d']
  | .obj ((name, value) :: fields) =>
    '\x7b' :: (layout depth).opening ++ renderString name ++ ": " ++
      renderAt layout (depth + 1) value ++ renderFields layout depth fields ++
      (layout depth).closing ++ ['\x7d']

def renderItems (layout : Nat → Layout) (depth : Nat) : List Json → Text
  | [] => []
  | item :: items =>
    ',' :: (layout depth).between ++ renderAt layout (depth + 1) item ++
      renderItems layout depth items

def renderFields (layout : Nat → Layout) (depth : Nat) : List (Text × Json) → Text
  | [] => []
  | (name, value) :: fields =>
    ',' :: (layout depth).between ++ renderString name ++ ": " ++
      renderAt layout (depth + 1) value ++ renderFields layout depth fields

end

def renderLine (value : Json) : Text := renderAt oneLine 0 value

def renderIndented (value : Json) : Text := renderAt indented 0 value

end ImageLint.Json
