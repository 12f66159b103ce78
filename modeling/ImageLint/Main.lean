-- The command line.
import ImageLint.Report.Ansi
import ImageLint.Run
import ImageLint.Yaml.Document

namespace ImageLint

open scoped Characters

/-- The error that a failure to open a file stands for. -/
def FileError.ofFailure : IO.Error → FileError
  | .permissionDenied _ _ reason => ⟨13, reason.toList⟩
  | .inappropriateType _ number reason | .otherError number reason |
    .invalidArgument _ number reason => ⟨number.toNat, reason.toList⟩
  | _ => .missing

def look (path : Path) : IO (Except FileError Entry) := do
  try
    let bytes ← IO.FS.readBinFile (String.ofList path.text)
    return .ok (.file bytes.toList)
  catch failure =>
    let error := FileError.ofFailure failure
    return if error.number = 21 then .ok .directory
      else if error.number = 13 then .ok .locked
      else .error error

def Options.paths (options : Options) : List Path :=
  [options.configFile.getD (options.context.child Config.fileName),
    Run.exclusionFile options, options.script]

/-- The width of the terminal, as the environment gives it. -/
def terminalColumns : IO Int := do
  return (((← IO.getEnv "COLUMNS").map String.toList).bind Integer.read?).getD 80

def runOptions (options : Options) : IO UInt32 := do
  let known ← options.paths.mapM fun path => return (path, ← look path)
  let outcome := Run.outcome
    { files := Files.ofList known
      load := Yaml.Value.ofText
      terminal := Report.Ansi.terminal (← terminalColumns) } options
  IO.eprint (String.ofList outcome.diagnostics)
  IO.print (String.ofList outcome.output)
  return outcome.status.toUInt32

def runArguments (arguments : List String) : IO UInt32 := do
  match Options.ofArguments (arguments.map String.toList) with
  | .ok options => runOptions options
  | .error mistake =>
    IO.eprintln (String.ofList mistake.message)
    return 2

end ImageLint

/-- Checks a build script. The exit status is 0 for a clean one, 1 for errors
and 2 for warnings only or a mistake in the command line. -/
def main (arguments : List String) : IO UInt32 := ImageLint.runArguments arguments
