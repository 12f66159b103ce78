-- Reading the build script and the exclusion file.
import ImageLint.Files
import ImageLint.Text.Utf8

namespace ImageLint

/-- Why a run cannot start. -/
inductive SourceError where
  | scriptMissing (path : Path)
  | scriptUnreadable (path : Path) (error : FileError)
  | exclusionsUnreadable (path : Path) (error : FileError)
  | untold (failure : LookupFailure)
  deriving DecidableEq, Repr

def SourceError.message : SourceError → Text
  | .scriptMissing path => "Build script '" ++ path.text ++ "' not found."
  | .scriptUnreadable path error =>
    "Build script '" ++ path.text ++ "' could not be read (" ++ error.reason ++ ")."
  | .exclusionsUnreadable path error =>
    "Exclusion file '" ++ path.text ++ "' could not be read (" ++ error.reason ++ ")."
  | .untold failure => failure.message

namespace Source

/-- The build script that is read when none is named. -/
def defaultScript : Text := "Dockerfile"

def exclusionName : Text := ".dockerignore"

/-- The exclusion file stands at the root of the build context. -/
def exclusionPath (context : Path) : Path := context.child exclusionName

/-- The lines of the build script. A script that is not there is an error. -/
def readLines (files : Files) (path : Path) : Except SourceError (List Text) := do
  if ← (files.isFile path).mapError .untold then
    let bytes ← (files.read path).mapError (.scriptUnreadable path)
    return Text.lines (Text.ofFile bytes)
  else throw (.scriptMissing path)

/-- The text of the exclusion file, if there is one. A file that is there and
cannot be read is an error: it may still apply. -/
def readOptionalText (files : Files) (path : Path) : Except SourceError (Option Text) := do
  if ← (files.isFile path).mapError .untold then
    let bytes ← (files.read path).mapError (.exclusionsUnreadable path)
    return some (Text.ofFile bytes)
  else return none

end Source

end ImageLint
