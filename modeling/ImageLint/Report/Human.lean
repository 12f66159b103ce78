-- The report for people: the findings by topic, the counts, the verdict and
-- general advice.
import ImageLint.Report.Style
import ImageLint.Text.Lines
import ImageLint.Verdict

namespace ImageLint.Report

/-! ## Topics -/

def standardTopics : List (Int × Text) := [
  (0, ".dockerignore file"),
  (1, "Base image"),
  (2, "WORKDIR"),
  (3, "Package manager cache"),
  (4, "Temporary file cleanup"),
  (5, "RUN layer count"),
  (6, "Multi-stage build"),
  (7, "COPY/ADD usage"),
  (8, "Image metadata"),
  (9, "Port exposure"),
  (10, "Health check"),
  (11, "User privileges"),
  (12, "ADD vs COPY")]

/-- The topics shown only when they have findings. -/
def extraTopics : List (Int × Text) := [(13, "Unrecognized lines"), (14, "Custom rules")]

def topicHeading (topic : Int) : Text :=
  let title := ((standardTopics ++ extraTopics).lookup topic).getD "Other"
  if topic = 0 then "--- " ++ title ++ " ---"
  else "[Check " ++ Text.ofInt topic ++ "] " ++ title

/-- The topics of a report in ascending order: the standard ones, and those
with findings. -/
def topicsOf (findings : List Finding) : List Int :=
  ((standardTopics.map Prod.fst) ++ findings.map (·.topic)).eraseDups.mergeSort

/-! ## Findings -/

def marker (finding : Finding) : Text × Colour :=
  if finding.passed then ("✔ PASS", .green)
  else match finding.severity with
    | .error => ("✖ ERROR", .red)
    | .warning => ("⚠ WARNING", .yellow)
    | .info => ("ℹ INFO", .blue)

def lineSuffix (finding : Finding) : Text :=
  let numbers := Text.joinWith ", " (finding.lines.map Text.ofInt)
  match finding.lines with
  | [] => []
  | [_] => " (line: " ++ numbers ++ ")"
  | _ => " (lines: " ++ numbers ++ ")"

variable (style : Style)

/-- The lines of a tip. The lines after the first are set further in. -/
def tipLines (tip : Text) : List Text :=
  match Text.lines tip with
  | [] => []
  | first :: rest =>
    style.coloured .cyan ("  → TIP: " ++ first) ::
      rest.map fun line => style.coloured .cyan ("      " ++ line)

def findingLines (verbose : Bool) (finding : Finding) : List Text :=
  let (mark, colour) := marker finding
  let text := mark ++ ": " ++ finding.message ++ lineSuffix finding
  let text := if verbose then text ++ " [" ++ finding.ruleId ++ "]" else text
  style.coloured colour ("  " ++ text) :: tipLines style (finding.tip.getD [])

/-- The lines of a topic: an empty one, the heading, and its findings. -/
def topicLines (verbose : Bool) (findings : List Finding) (topic : Int) : List Text :=
  let own := findings.filter (·.topic == topic)
  [] :: style.bold (topicHeading topic) ::
    if own.isEmpty then [style.dim "  no findings"] else own.flatMap (findingLines style verbose)

/-! ## The whole report -/

def verdictLine (verdict : Verdict) : Text :=
  match verdict.exitStatus with
  | 1 => style.boldColoured .red " ✖ FAILED: serious problems must be fixed"
  | 2 => style.boldColoured .yellow " ⚠ PASSED WITH WARNINGS: optimizations recommended"
  | _ => style.boldColoured .green " ✔ PASSED: Dockerfile follows image size best practices"

def advice : List Text := [
  "Use lightweight base images (alpine, slim)",
  "Chain RUN commands to reduce the number of layers",
  "Use multi-stage builds to separate build and runtime environments",
  "Clean package manager caches and temporary files in the same RUN",
  "Keep a thorough .dockerignore file",
  "Use --no-install-recommends to skip recommended packages"]

/-- The width of a report on a terminal with so many columns. An unknown
width counts as the greatest. -/
def reportWidth (columns : Int) : Nat :=
  if columns ≤ 0 then 72 else min 72 columns.toNat

/-- The line above and below a part of the report. -/
def ruler (columns : Int) : Text := List.replicate (reportWidth columns) '='

def openingLines (columns : Int) (scriptName exclusionName : Text) : List Text := [
  ruler columns,
  " slimcheck · Dockerfile image size check",
  " Dockerfile:    " ++ scriptName,
  " .dockerignore: " ++ exclusionName,
  ruler columns]

def closingLines (columns : Int) (verdict : Verdict) : List Text :=
  [[],
    ruler columns,
    " " ++ Text.ofNat verdict.errors ++ " error(s), " ++ Text.ofNat verdict.warnings ++ " warning(s)",
    verdictLine style verdict,
    [],
    " Image size tips:"] ++
  advice.map (("  • " : Text) ++ ·) ++ [ruler columns]

def human (columns : Int) (scriptName exclusionName : Text) (verdict : Verdict)
    (verbose : Bool) : Text :=
  let findings := verdict.findings
  Text.joinWith ['\n'] (openingLines columns scriptName exclusionName ++
    (topicsOf findings).flatMap (topicLines style verbose findings) ++
    closingLines style columns verdict)

end ImageLint.Report
