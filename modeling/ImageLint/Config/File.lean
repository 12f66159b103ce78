-- Settings read from a file.
import ImageLint.Config.Load
import ImageLint.Files
import ImageLint.Text.Utf8
import ImageLint.Yaml.Fault

namespace ImageLint

abbrev Yaml.Loader := Text → Except Yaml.Fault Yaml.Value

/-! ## Failures -/

inductive ConfigFileFailure where
  | unreadable (path : Path) (error : FileError)
  /-- The bytes are no text. -/
  | notText (error : Text.EncodingError)
  | malformed (path : Path)
  /-- A scalar has the form of a value and is none. -/
  | badScalar (fault : Yaml.Fault)
  | unusable (failure : ConfigFailure)

/-- What is said of bytes that are no text. -/
def Text.EncodingError.message (error : Text.EncodingError) : Text :=
  let place : Text :=
    if error.flaw.size = 1 then
      "byte 0x" ++ Text.hex 2 error.byte.toNat ++ " in position " ++ Text.ofNat error.position
    else
      "bytes in position " ++ Text.ofNat error.position ++ "-" ++
        Text.ofNat (error.position + error.flaw.size - 1)
  let reason : Text := match error.flaw with
    | .badStart => "invalid start byte"
    | .badContinuation _ => "invalid continuation byte"
    | .endOfData _ => "unexpected end of data"
  "'utf-8' codec can't decode " ++ place ++ ": " ++ reason

def ConfigFileFailure.message : ConfigFileFailure → Text
  | .unreadable path error =>
    "Cannot read config file " ++ path.text ++ ": " ++ error.messageAt path
  | .notText error => error.message
  | .malformed path => "Invalid YAML in " ++ path.text
  | .badScalar fault => fault.message
  | .unusable failure => failure.message

namespace Config

/-! ## Files of settings -/

/-- The name of the file of settings in a build context. -/
def fileName : Text := ".slimcheck.yaml"

/-- The file of settings in a build context, if there is one. -/
def find? (files : Files) (context : Path) : Except LookupFailure (Option Path) := do
  let path := context.child fileName
  return if ← files.isFile path then some path else none

/-- The value of a document in a file. One that is null, zero or empty is an
empty mapping. -/
def readValue (load : Yaml.Loader) (files : Files) (path : Path) :
    Except ConfigFileFailure Yaml.Value := do
  let bytes ← (files.read path).mapError (.unreadable path)
  let text ← (Text.decodeStrict bytes).mapError .notText
  match load (Text.unifyLineEnds text) with
  | .ok value => return if value.isTruthy then value else .map []
  | .error .malformed => throw (.malformed path)
  | .error fault => throw (.badScalar fault)

structure LoadedFile where
  isRead : Bool
  /-- The keys that are not known, up to where loading stopped. -/
  unknownKeys : List Yaml.Value
  result : Except ConfigFileFailure Config

variable [Characters]

def loadFile (load : Yaml.Loader) (files : Files) (path : Path) : LoadedFile :=
  match readValue load files path with
  | .error failure => ⟨false, [], .error failure⟩
  | .ok value =>
    let loaded := loadValue path.text value
    ⟨true, loaded.unknownKeys, loaded.result.mapError .unusable⟩

end Config

end ImageLint
