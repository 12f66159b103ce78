-- The checks of the base image. Only the first stage counts.
import ImageLint.Facts
import ImageLint.ImageReference

namespace ImageLint.Rules

variable [Characters]

/-- The first heavy distribution whose pattern matches an image reference, in
any letter case. -/
def heavyFamily? (reference : Text) :
    List (Text × Text) → Except Pattern.Fault (Option Text)
  | [] => return none
  | (name, pattern) :: rest => do
    if ← Pattern.search pattern reference { ignoreCase := true } then return some name
    else heavyFamily? reference rest

/-- What is said of a base image that is not light. A distribution with an
empty name is not named. -/
def weightFinding (reference : Text) (line : Nat) (family : Option Text) : Finding :=
  match family with
  | none | some [] =>
    { ruleId := "base_image_weight"
      severity := .info
      message := "Base image '" ++ reference ++
        "' is not a known lightweight variant; check whether a slim tag exists."
      lines := Finding.refs [line]
      topic := 1 }
  | some family =>
    { ruleId := "base_image_weight"
      severity := .warning
      message := "Base image '" ++ reference ++ "' is a full " ++ family ++
        " image. Consider an alpine or slim variant."
      lines := Finding.refs [line]
      topic := 1
      tip := some "For example node:18-alpine instead of node:18, python:3.11-slim instead of python:3.11".toList }

def baseImageWeight (subject : Subject) : Except Pattern.Fault (List Finding) := do
  let config := subject.config
  match subject.script.baseImage? with
  | none => return [
    { ruleId := "base_image_weight"
      severity := .info
      message := "No FROM instruction found; base image checks skipped."
      topic := 1 }]
  | some base =>
    let reference := base.imageReference
    if ImageReference.isLightweight reference config.lightweightMarkers then
      return [.pass "base_image_weight" 1 ("Lightweight base image in use (" ++ reference ++ ").")]
    else
      return [weightFinding reference base.line (← heavyFamily? reference config.heavyDistributions)]

/-- The image is whatever was published last: its tag says so, or it has none
and that counts the same. -/
def isFloating (config : Config) (reference : Text) : Bool :=
  match ImageReference.tag? reference with
  | some tag => lower tag == "latest".toList
  | none => config.treatUntaggedAsLatest

/-- The base image has a fixed version, or is light. -/
def baseImageTag (subject : Subject) : Except Pattern.Fault (List Finding) :=
  let config := subject.config
  return match subject.script.baseImage? with
  | none => []
  | some base =>
    let reference := base.imageReference
    if ImageReference.isLightweight reference config.lightweightMarkers then []
    else if isFloating config reference then [
      { ruleId := "base_image_tag"
        severity := .error
        message := "Base image '" ++ reference ++
          "' uses the floating 'latest' tag and is not a lightweight variant. Pin an explicit version and prefer a slim or alpine variant."
        lines := Finding.refs [base.line]
        topic := 1 }]
    else []

end ImageLint.Rules
