-- The outcome of a run: its findings, how many are errors and warnings, and
-- the exit status that follows.
import ImageLint.Finding

namespace ImageLint

structure Verdict where
  findings : List Finding := []
  errors : Nat := 0
  warnings : Nat := 0
  deriving DecidableEq, Repr

namespace Verdict

/-- A finding that counts: of the given severity, and not a note that a check
passed. -/
def counts (severity : Severity) (finding : Finding) : Bool :=
  !finding.passed && finding.severity == severity

def tally (findings : List Finding) : Verdict :=
  { findings := findings
    errors := findings.countP (counts .error)
    warnings := findings.countP (counts .warning) }

/-- The exit status: one for errors, two for warnings only, and zero for
neither. -/
def exitStatus (verdict : Verdict) : Nat :=
  if 0 < verdict.errors then 1 else if 0 < verdict.warnings then 2 else 0

end Verdict

end ImageLint
