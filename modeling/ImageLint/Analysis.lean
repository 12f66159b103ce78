-- A run of all enabled rules over a build script and its exclusion file.
import ImageLint.Catalog
import ImageLint.Verdict

namespace ImageLint

namespace Subject

variable [Characters]

/-- What the checks look at, for a script, an exclusion file and settings. -/
def prepare (script : BuildScript) (exclusions : Exclusions) (config : Config) :
    Except Pattern.Fault Subject := do
  return {
    script := script
    exclusions := exclusions
    config := config
    facts := ← Facts.derive script config }

def enabledRules (config : Config) : List Rule :=
  catalog.filter fun rule => !config.disabledRules.contains rule.ruleId

/-- What each enabled rule finds, in order, and then the declared rules. -/
def outcomes (subject : Subject) : List (Except Pattern.Fault (List Finding)) :=
  (enabledRules subject.config).map (·.check subject) ++ [Rules.customRules subject]

def findings (subject : Subject) : Except Pattern.Fault (List Finding) := do
  return (← subject.outcomes.mapM id).flatten

end Subject

structure Analysis where
  script : BuildScript
  exclusions : Exclusions
  facts : Facts
  verdict : Verdict

variable [Characters]

/-- Analyses the lines of a build script and the content of the exclusion
file. -/
def analyze (lines : List Text) (exclusionContent : Option Text) (config : Config) :
    Except Pattern.Fault Analysis := do
  let script := BuildScript.ofLines lines
  let exclusions := Exclusions.classify config exclusionContent
  let subject ← Subject.prepare script exclusions config
  let findings ← subject.findings
  return {
    script := script
    exclusions := exclusions
    facts := subject.facts
    verdict := Verdict.tally findings }

end ImageLint
