-- The checks of the exclusion file. An empty file is worse than none: it
-- passes for one and excludes nothing.
import ImageLint.Facts

namespace ImageLint.Rules

def exampleExclusions : Text :=
  Text.joinWith ['\n'] [
    "Example .dockerignore:",
    "  .git",
    "  .gitignore",
    "  README.md",
    "  Dockerfile*",
    "  .dockerignore",
    "  node_modules",
    "  npm-debug.log*",
    "  target/",
    "  dist/",
    "  *.log",
    "  .env*",
    "  coverage/",
    "  .pytest_cache/",
    "  __pycache__/"]

def exclusionFile (subject : Subject) : Except Pattern.Fault (List Finding) :=
  let count := Text.ofNat subject.exclusions.count
  return match subject.exclusions.state with
  | .absent => [
    { ruleId := "exclusion_file"
      severity := .warning
      message := "No .dockerignore file found. Add one to keep unneeded files out of the build context; it shrinks the context, speeds up builds and avoids leaking secrets."
      tip := some exampleExclusions }]
  | .empty => [
    { ruleId := "exclusion_file"
      severity := .error
      message := ".dockerignore is empty. An empty file excludes nothing and is indistinguishable from an attempt to bypass this check." }]
  | .commentOnly => [
    { ruleId := "exclusion_file"
      severity := .error
      message := ".dockerignore contains only comments and blank lines, so it excludes nothing. This is indistinguishable from an attempt to bypass this check." }]
  | .insufficient => [
    { ruleId := "exclusion_file"
      severity := .warning
      message := ".dockerignore has only " ++ count ++
        " effective rule(s); that is unlikely to shrink the build context much."
      tip := some "Include at least the common entries, e.g. .git, node_modules, *.log".toList }]
  | .sufficient =>
    [.pass "exclusion_file" 0 (".dockerignore contains " ++ count ++ " effective rules.")]

/-- The texts to add for the names of missing exclusions. -/
def missingTexts (catalog : List (Text × Text)) (names : List Text) : Text :=
  Text.joinWith ", " (names.map fun name => (catalog.lookup name).getD name)

def exclusionCoverage (subject : Subject) : Except Pattern.Fault (List Finding) :=
  let exclusions := subject.exclusions
  let config := subject.config
  return if exclusions.state != .sufficient then []
  else if !exclusions.missingCritical.isEmpty then [
    { ruleId := "exclusion_coverage"
      severity := .warning
      message := ".dockerignore is missing critical entries (" ++
        missingTexts config.criticalExclusions exclusions.missingCritical ++
        "); the image may grow significantly." }]
  else if !exclusions.missingAdvisory.isEmpty then [
    { ruleId := "exclusion_coverage"
      severity := .info
      message := ".dockerignore could also exclude: " ++
        missingTexts config.advisoryExclusions exclusions.missingAdvisory ++ "." }]
  else [.pass "exclusion_coverage" 0 ".dockerignore covers the important exclusion patterns."]

end ImageLint.Rules
