-- The checks of what runs while the image is built: cleanup after downloads,
-- the number of layers, and builds that deserve a stage of their own.
import ImageLint.Facts

namespace ImageLint.Rules

/-! ## Temporary files -/

/-- The pattern of a command that removes what `pattern` matches. -/
def removalOf (pattern : Text) : Text := "\\brm\\s.*?" ++ pattern

variable [Characters]

def removesTemp (text : Text) (patterns : List Text) : Except Pattern.Fault Bool :=
  patterns.anyM fun pattern => Pattern.search (removalOf pattern) text

def tempFileCleanup (subject : Subject) : Except Pattern.Fault (List Finding) := do
  let config := subject.config
  let building := subject.facts.commands.filter (·.runsAtBuild)
  let fetching := building.filter fun c => config.fetchIndicators.any (Text.holds · c.text)
  let cleaned ← building.anyM fun c => removesTemp c.text config.tempCleanupPatterns
  if fetching.isEmpty || cleaned then
    return [.pass "temp_file_cleanup" 4 "Temporary file cleanup present or not needed."]
  return [
    { ruleId := "temp_file_cleanup"
      severity := .warning
      message := "Downloads or installs found but no cleanup of temporary or cache files."
      lines := Finding.refs (fetching.map (·.line))
      topic := 4
      tip := some "For example: && rm -rf /tmp/* /var/tmp/* ~/.cache".toList }]

/-! ## Layers -/

def runCount (subject : Subject) : Except Pattern.Fault (List Finding) :=
  let count := subject.facts.runCount
  let threshold := subject.config.runThreshold
  return if threshold < count then [
    { ruleId := "run_count"
      severity := .warning
      message := Text.ofNat count ++ " RUN instructions found (threshold " ++
        Text.ofNat threshold ++ "). Each adds a layer; chain related commands with &&."
      lines := Finding.refs ((subject.script.ofKind .run).map (·.line))
      topic := 5
      tip := some "RUN apt-get update && apt-get install -y pkg && apt-get clean".toList }]
  else if 0 < count then
    [.pass "run_count" 5 ("RUN instruction count is reasonable (" ++ Text.ofNat count ++ ").")]
  else []

/-! ## Stages -/

def stageNames (script : BuildScript) : List Text :=
  (script.stages.filterMap (·.stageName?)).filter (!·.isEmpty)

def multiStage (subject : Subject) : Except Pattern.Fault (List Finding) := do
  let count := subject.facts.stageCount
  if 2 ≤ count then
    let names := stageNames subject.script
    return .pass "multi_stage" 6 ("Multi-stage build in use (" ++ Text.ofNat count ++ " stages).") ::
      if names.isEmpty then []
      else [.pass "multi_stage" 6
        ("Named build stage(s) detected: " ++ Text.joinWith ", " names ++ ".")]
  let builds ← subject.facts.commands.filterM fun c =>
    subject.config.buildToolPatterns.anyM fun pattern => Pattern.search pattern c.text
  if builds.isEmpty then return [
    { ruleId := "multi_stage"
      severity := .info
      message := "No compile step detected; a single-stage build is probably fine."
      topic := 6 }]
  return [
    { ruleId := "multi_stage"
      severity := .warning
      message := "Compile/build steps found in a single-stage build. Use a multi-stage build to keep toolchains out of the final image."
      lines := Finding.refs (builds.map (·.line))
      topic := 6
      tip := some "Build in one stage, then COPY --from=<stage> only the runtime artifacts.".toList }]

end ImageLint.Rules
