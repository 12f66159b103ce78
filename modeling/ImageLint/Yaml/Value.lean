-- The values that a configuration document holds, and the text of each.
import ImageLint.Calendar
import ImageLint.Number.Shortest
import ImageLint.Text.Quoted

namespace ImageLint

namespace Yaml

/-- A value of a document. The entries of a mapping keep their order. -/
inductive Value where
  | null
  | bool (value : Bool)
  | int (value : Int)
  | float (value : Binary64)
  | str (value : Text)
  | bytes (value : List UInt8)
  | date (value : Date)
  | moment (value : Moment)
  | list (items : List Value)
  | pair (first second : Value)
  | set (items : List Value)
  | map (entries : List (Value × Value))
  deriving Repr, Inhabited

namespace Value

def quoteByte (quote : Char) (byte : UInt8) : Text :=
  let c := Char.ofNat byte.toNat
  if 0x80 ≤ byte.toNat then "\\x" ++ Text.hex 2 byte.toNat else Text.quoteChar quote c

def quotedBytes (bytes : List UInt8) : Text :=
  let quote := Text.quoteFor (bytes.map fun byte => Char.ofNat byte.toNat)
  'b' :: quote :: bytes.flatMap (quoteByte quote) ++ [quote]

mutual

def quotedText : Value → Text
  | .null => "None"
  | .bool true => "True"
  | .bool false => "False"
  | .int value => Text.ofInt value
  | .float value => value.toText
  | .str value => Text.quoted value
  | .bytes value => quotedBytes value
  | .date value => value.quotedText
  | .moment value => value.quotedText
  | .list items => '[' :: itemsText items ++ [']']
  | .pair first second => '(' :: quotedText first ++ ", " ++ quotedText second ++ [')']
  | .set [] => "set()"
  | .set items => '\x7b' :: itemsText items ++ ['\x7d']
  | .map entries => '\x7b' :: entriesText entries ++ ['\x7d']

def itemsText : List Value → Text
  | [] => []
  | [item] => quotedText item
  | item :: items => quotedText item ++ ", " ++ itemsText items

def entriesText : List (Value × Value) → Text
  | [] => []
  | [(key, value)] => quotedText key ++ ": " ++ quotedText value
  | (key, value) :: entries =>
    quotedText key ++ ": " ++ quotedText value ++ ", " ++ entriesText entries

end

/-- The text of a value by itself: a string is its own text. -/
def text : Value → Text
  | .str value => value
  | .date value => value.text
  | .moment value => value.text
  | value => value.quotedText

mutual

/-- The value can be turned into a text: no integer in it has too many digits. -/
def hasText : Value → Bool
  | .int value => Text.isWritable value
  | .list items | .set items => haveTexts items
  | .pair first second => first.hasText && second.hasText
  | .map entries => entriesHaveTexts entries
  | _ => true

def haveTexts : List Value → Bool
  | [] => true
  | item :: items => item.hasText && haveTexts items

def entriesHaveTexts : List (Value × Value) → Bool
  | [] => true
  | (key, value) :: entries => key.hasText && value.hasText && entriesHaveTexts entries

end

def isTruthy : Value → Bool
  | .null => false
  | .bool value => value
  | .int value => value != 0
  | .float value => !value.isZero
  | .str value => !value.isEmpty
  | .bytes value => !value.isEmpty
  | .list items => !items.isEmpty
  | .set items => !items.isEmpty
  | .map entries => !entries.isEmpty
  | .date _ | .moment _ | .pair .. => true

/-! ## Mappings -/

/-- A number as the integer it equals, if it does. The truth values count as
zero and one. -/
def asInteger? : Value → Option Int
  | .bool value => some (if value then 1 else 0)
  | .int value => some value
  | .float value => value.toInt?
  | _ => none

/-- Two keys are the same key. Numbers are compared by value, and what is not
a number at all is the same as nothing. -/
def sameKey (a b : Value) : Bool :=
  match asInteger? a, asInteger? b with
  | some m, some n => m == n
  | none, none =>
    match a, b with
    | .null, .null => true
    | .float x, .float y => x == y && x != .nan
    | .str s, .str t => s == t
    | .bytes s, .bytes t => s == t
    | .date d, .date e => d == e
    | .moment m, .moment n => m == n
    | _, _ => false
  | _, _ => false

/-- An entry set to a value: under the key it already has, else at the end. -/
def setEntry (key value : Value) : List (Value × Value) → List (Value × Value)
  | [] => [(key, value)]
  | (old, oldValue) :: rest =>
    if sameKey old key then (old, value) :: rest else (old, oldValue) :: setEntry key value rest

/-- The mapping of entries in which a later one replaces an earlier one with
the same key. -/
def ofEntries (entries : List (Value × Value)) : List (Value × Value) :=
  entries.foldl (fun map entry => setEntry entry.1 entry.2 map) []

def entry? (name : Text) (entries : List (Value × Value)) : Option Value :=
  (entries.find? fun entry => sameKey entry.1 (.str name)).map Prod.snd

end Value

end Yaml

end ImageLint
