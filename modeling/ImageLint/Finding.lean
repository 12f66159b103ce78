-- What a rule reports.
import ImageLint.Text.Basic

namespace ImageLint

inductive Severity where
  | error
  | warning
  | info
  deriving DecidableEq, Repr

namespace Severity

def name : Severity → Text
  | .error => "ERROR"
  | .warning => "WARNING"
  | .info => "INFO"

def ofName? (name : Text) : Option Severity := [error, warning, info].find? (·.name == name)

end Severity

structure Finding where
  ruleId : Text
  severity : Severity
  message : Text
  lines : List Int := []
  topic : Int := 0
  tip : Option Text := none
  /-- The check found nothing wrong. Such a note is never counted. -/
  passed : Bool := false
  deriving DecidableEq, Repr

namespace Finding

def refs (lines : List Nat) : List Int := lines.map Int.ofNat

def pass (ruleId : Text) (topic : Int) (message : Text) : Finding :=
  { ruleId := ruleId, severity := .info, message := message, topic := topic, passed := true }

end Finding

end ImageLint
