-- The exclusion file: its effective rules, and how well they cover what a
-- build context should leave out.
import ImageLint.Config.Basic
import ImageLint.Text.Lines

namespace ImageLint

inductive ExclusionState where
  | absent
  | empty
  | commentOnly
  | insufficient
  | sufficient
  deriving DecidableEq, Repr

namespace ExclusionState

def all : List ExclusionState := [.absent, .empty, .commentOnly, .insufficient, .sufficient]

def name : ExclusionState → Text
  | .absent => "ABSENT"
  | .empty => "EMPTY"
  | .commentOnly => "COMMENT_ONLY"
  | .insufficient => "INSUFFICIENT"
  | .sufficient => "SUFFICIENT"

def ofName? (name : Text) : Option ExclusionState := all.find? (·.name == name)

end ExclusionState

structure Exclusions where
  state : ExclusionState
  count : Nat := 0
  missingCritical : List Text := []
  missingAdvisory : List Text := []
  rules : List Text := []
  deriving DecidableEq, Repr

namespace Exclusions

/-- The rules of a file: its stripped lines that are neither blank nor
comments. -/
def effectiveRules (content : Text) : List Text := (Text.lines content).filterMap Text.significant?

/-- The names whose text is part of no rule, in the order of the catalog. -/
def missing (catalog : List (Text × Text)) (rules : List Text) : List Text :=
  (catalog.filter fun entry => !rules.any (Text.holds entry.2 ·)).map Prod.fst

/-- The state of a file that is not empty, by the number of its rules. -/
def stateOfCount (minimum count : Nat) : ExclusionState :=
  if count = 0 then .commentOnly else if count < minimum then .insufficient else .sufficient

/-- What is known of a file from its content. No content means that there is
no file. Coverage is computed for sufficient files only. -/
def classify (config : Config) : Option Text → Exclusions
  | none => { state := .absent }
  | some content =>
    let content := Text.dropMarks content
    if (Text.strip content).isEmpty then { state := .empty }
    else
      let rules := effectiveRules content
      let state := stateOfCount config.minExclusionRules rules.length
      if state == .sufficient then
        { state := state
          count := rules.length
          missingCritical := missing config.criticalExclusions rules
          missingAdvisory := missing config.advisoryExclusions rules
          rules := rules }
      else { state := state, count := rules.length, rules := rules }

end Exclusions

end ImageLint
