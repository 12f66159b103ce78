-- What several checks need to know of a build script, worked out once.
import ImageLint.BuildScript
import ImageLint.Exclusions
import ImageLint.Pattern.Search

namespace ImageLint

structure Facts where
  commands : List Command := []
  runCount : Nat := 0
  stageCount : Nat := 0
  /-- The package managers that are called, with the lines of the commands
  that call them. -/
  families : List (Text × List Nat) := []
  deriving DecidableEq, Repr

structure Subject where
  script : BuildScript
  exclusions : Exclusions
  config : Config
  facts : Facts

namespace Facts

/-- A name set to its lines: in its old place if it has one, else at the end. -/
def setFamily (name : Text) (lines : List Nat) :
    List (Text × List Nat) → List (Text × List Nat)
  | [] => [(name, lines)]
  | (key, old) :: rest =>
    if key == name then (key, lines) :: rest else (key, old) :: setFamily name lines rest

variable [Characters]

/-- The lines of the commands that run while the image is built and match a
pattern. -/
def buildLines (commands : List Command) (pattern : Text) : Except Pattern.Fault (List Nat) := do
  let found ← commands.filterM fun c =>
    if c.runsAtBuild then Pattern.search pattern c.text else pure false
  return found.map (·.line)

def familiesOf (commands : List Command) :
    List PackageManager → List (Text × List Nat) →
    Except Pattern.Fault (List (Text × List Nat))
  | [], families => return families
  | manager :: rest, families => do
    let lines ← buildLines commands manager.detect
    familiesOf commands rest (if lines.isEmpty then families else setFamily manager.name lines families)

def derive (script : BuildScript) (config : Config) : Except Pattern.Fault Facts := do
  let commands := script.commands
  let families ← familiesOf commands config.packageManagers []
  return {
    commands := commands
    runCount := (script.ofKind .run).length
    stageCount := script.stages.length
    families := families }

/-- The lines of the commands that call a package manager. -/
def familyLines (facts : Facts) (name : Text) : List Nat := (facts.families.lookup name).getD []

end Facts

/-- A check: what it finds in its subject. A pattern that cannot be read
stops it. -/
abbrev Check := Subject → Except Pattern.Fault (List Finding)

end ImageLint
