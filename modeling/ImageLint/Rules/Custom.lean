-- The rules that the user declares.
import ImageLint.Facts

namespace ImageLint.Rules

/-- The kind of instruction that a rule is limited to. The kind may be given
by its name or by the word that opens its instructions. -/
def keywordOf (rule : CustomRule) : Option Keyword :=
  match rule.keyword with
  | none | some [] => none
  | some keyword => some ((Keyword.ofName? keyword).getD (Keyword.ofToken keyword))

/-- The instruction is of the kind, if there is one. -/
def isOfKind (keyword : Option Keyword) (i : Instruction) : Bool :=
  match keyword with
  | none => true
  | some keyword => i.keyword == keyword

variable [Characters]

/-- The lines that a rule matches. The pattern is read even when the rule is
limited to instructions that do not occur. -/
def matchingLines (rule : CustomRule) (script : BuildScript) :
    Except Pattern.Fault (List Nat) := do
  let pattern ← Pattern.read rule.pattern
  let found := script.instructions.filter fun i =>
    isOfKind (keywordOf rule) i && pattern.matchesIn i.raw
  return found.map (·.line)

/-- The findings of one declared rule: one per line it matches. -/
def customRule (script : BuildScript) (rule : CustomRule) :
    Except Pattern.Fault (List Finding) := do
  return (← matchingLines rule script).map fun line =>
    { ruleId := rule.ruleId
      severity := rule.severity
      message := rule.message
      lines := Finding.refs [line]
      topic := 14 }

/-- The findings of the declared rules that are not disabled. -/
def customRules (subject : Subject) : Except Pattern.Fault (List Finding) := do
  let enabled := subject.config.customRules.filter fun rule =>
    !subject.config.disabledRules.contains rule.ruleId
  return (← enabled.mapM (customRule subject.script)).flatten

end ImageLint.Rules
