-- The report for other programs.
import ImageLint.Exclusions
import ImageLint.Json.Writer
import ImageLint.Verdict

namespace ImageLint.Report

def textsJson (texts : List Text) : Json := .arr (texts.map .str)

/-- The tip of a finding as a field, if there is a tip with some text. -/
def tipField : Option Text → List (Text × Json)
  | none | some [] => []
  | some tip => [("tip".toList, .str tip)]

def findingJson (finding : Finding) : Json := .obj <| [
  ("rule_id".toList, .str finding.ruleId),
  ("severity".toList, .str finding.severity.name),
  ("message".toList, .str finding.message),
  ("line_refs".toList, .arr (finding.lines.map .int)),
  ("section".toList, .int finding.topic),
  ("passed".toList, .bool finding.passed)] ++ tipField finding.tip

/-- What the report tells: the names of the two files, what is known of the
exclusion file, the findings, the counts and the exit status. -/
structure Contents where
  scriptName : Text
  exclusionName : Text
  state : ExclusionState
  ruleCount : Int
  missingCritical : List Text
  missingAdvisory : List Text
  findings : List Finding
  errors : Int
  warnings : Int
  exitStatus : Int
  deriving DecidableEq, Repr

namespace Contents

def ofRun (scriptName exclusionName : Text) (exclusions : Exclusions) (verdict : Verdict) :
    Contents where
  scriptName := scriptName
  exclusionName := exclusionName
  state := exclusions.state
  ruleCount := exclusions.count
  missingCritical := exclusions.missingCritical
  missingAdvisory := exclusions.missingAdvisory
  findings := verdict.findings
  errors := verdict.errors
  warnings := verdict.warnings
  exitStatus := verdict.exitStatus

def exclusionsJson (contents : Contents) : Json := .obj [
  ("state", .str contents.state.name),
  ("effective_rule_count", .int contents.ruleCount),
  ("missing_critical", textsJson contents.missingCritical),
  ("missing_advisory", textsJson contents.missingAdvisory)]

def summaryJson (contents : Contents) : Json := .obj [
  ("errors", .int contents.errors),
  ("warnings", .int contents.warnings),
  ("exit_status", .int contents.exitStatus)]

def json (contents : Contents) : Json := .obj [
  ("build_script", .str contents.scriptName),
  ("ignore_file", .str contents.exclusionName),
  ("exclusions", contents.exclusionsJson),
  ("findings", .arr (contents.findings.map findingJson)),
  ("summary", contents.summaryJson)]

def text (contents : Contents) : Text := contents.json.renderIndented

end Contents

def machine (scriptName exclusionName : Text) (exclusions : Exclusions) (verdict : Verdict) :
    Text :=
  (Contents.ofRun scriptName exclusionName exclusions verdict).text

end ImageLint.Report
