-- A whole run: what it prints, what it logs, and its exit status.
import ImageLint.Analysis
import ImageLint.CommandLine
import ImageLint.Config.File
import ImageLint.Explanation
import ImageLint.Log
import ImageLint.Report.Human
import ImageLint.Report.Machine

namespace ImageLint

/-! ## Outcomes -/

/-- What a run leaves: its exit status, what it prints, and what it says of
itself. -/
structure Outcome where
  status : Nat
  output : Text := []
  diagnostics : Text := []
  deriving DecidableEq, Repr

/-- A failure that a run does not expect and cannot report. -/
inductive Breakdown where
  | settings (failure : ConfigFileFailure)
  | lookup (failure : LookupFailure)
  | pattern (fault : Pattern.Fault)
  /-- What is to be printed cannot be, for the given reason. -/
  | unprintable (reason : Text)

def Breakdown.message : Breakdown → Text
  | .settings failure => failure.message
  | .lookup failure => failure.message
  | .pattern fault => fault.message
  | .unprintable reason => reason

inductive Stop where
  | reported (message : Text)
  | broken (breakdown : Breakdown)

def ConfigFileFailure.isReported : ConfigFileFailure → Bool
  | .unreadable .. | .malformed _ | .unusable (.refused ..) => true
  | _ => false

def Stop.ofSettings (failure : ConfigFileFailure) : Stop :=
  if failure.isReported then .reported failure.message else .broken (.settings failure)

/-- What a run finds around it: files, what reads documents, and where it
prints. -/
structure Environment where
  files : Files
  load : Yaml.Loader
  terminal : Report.Terminal

namespace Run

/-! ## The log -/

/-- A step of a run, which may log something and may stop the run. -/
abbrev Session := ExceptT Stop (StateM (List LogRecord))

def log (level part : Text) (message : Text) : Session Unit :=
  modify (· ++ [⟨"slimcheck." ++ part, Log.levelOf level, message⟩])

def detail (part message : Text) : Session Unit := log "DEBUG" part message

def quotedTexts (texts : List Text) : Text := Text.joinWith ", " (texts.map Text.quoted)

def bracketed (texts : List Text) : Text := '[' :: quotedTexts texts ++ [']']

/-- Texts in parentheses. A single one has a comma after it. -/
def parenthesized (texts : List Text) : Text :=
  '(' :: quotedTexts texts ++ (if texts.length = 1 then ",)" else ")")

def scriptDetail (path : Path) (script : BuildScript) : Text :=
  "Parsed " ++ Text.ofNat script.instructions.length ++ " instructions (" ++
    Text.ofNat (script.ofKind .unknown).length ++ " unknown) from " ++ path.text

/-- What is logged of an exclusion file, unless it is absent or empty. -/
def exclusionDetail? (path : Path) (exclusions : Exclusions) : Option Text :=
  let start : Text := "Exclusion file " ++ path.text ++ ": "
  match exclusions.state with
  | .absent | .empty => none
  | .sufficient =>
    some (start ++ Text.ofNat exclusions.count ++ " rules, missing critical=" ++
      parenthesized exclusions.missingCritical ++ " advisory=" ++
      parenthesized exclusions.missingAdvisory)
  | state =>
    some (start ++ state.name ++ " (" ++ Text.ofNat exclusions.count ++ " rules)")

/-- What is logged of the package managers that are called. -/
def familyDetail (facts : Facts) : Text :=
  let names := Text.sort (facts.families.map Prod.fst)
  let shown : Text := if names.isEmpty then "none" else bracketed names
  "Package manager families present: " ++ shown

def verdictDetail (path : Path) (verdict : Verdict) : Text :=
  path.text ++ ": " ++ Text.ofNat verdict.errors ++ " errors, " ++ Text.ofNat verdict.warnings ++
    " warnings, exit " ++ Text.ofNat verdict.exitStatus

/-! ## Steps -/

def orStop {ε α : Type} (stop : ε → Stop) : Except ε α → Session α
  | .ok value => return value
  | .error e => throw (stop e)

/-- What a command line sets in place of the settings. -/
def overrides (options : Options) : Overrides where
  runThreshold := options.runThreshold
  minExclusionRules := options.minExclusionRules
  disabledRules := options.disabledRules

/-- The exclusion file of a run: the one that is named, else the one of the
build context. -/
def exclusionFile (options : Options) : Path :=
  options.exclusionFile.getD (Source.exclusionPath options.context)

/-- How a look-up without an answer stops a run. -/
def stopOfLookup (failure : LookupFailure) : Stop := .broken (.lookup failure)

/-- The file of settings: the one that is named, else the one in the build
context, if there is one. -/
def settingsFile? (files : Files) (options : Options) : Except LookupFailure (Option Path) :=
  match options.configFile with
  | some path => return some path
  | none => Config.find? files options.context

variable [Characters]

def readSettings (environment : Environment) (path : Path) : Session Config := do
  let loaded := Config.loadFile environment.load environment.files path
  if loaded.isRead then detail "config" ("Loaded config from " ++ path.text)
  for key in loaded.unknownKeys do
    log "WARNING" "config" (Config.unknownKeyMessage path.text key)
  orStop Stop.ofSettings loaded.result

/-- The settings of a run: from its file of settings, else the usual ones. -/
def settings (environment : Environment) (options : Options) : Session Config := do
  let config ← match ← orStop stopOfLookup (settingsFile? environment.files options) with
    | none => pure {}
    | some path => readSettings environment path
  return config.withOverrides (overrides options)

/-- How a source that cannot be read stops a run. -/
def stopOfSource : SourceError → Stop
  | .untold failure => stopOfLookup failure
  | error => .reported error.message

def scriptLines (files : Files) (path : Path) : Session (List Text) := do
  let lines ← orStop stopOfSource (Source.readLines files path)
  detail "source" ("Read " ++ Text.ofNat lines.length ++ " lines from " ++ path.text)
  return lines

/-- The content of the exclusion file, if there is one. -/
def exclusionContent (files : Files) (path : Path) : Session (Option Text) := do
  let content ← orStop stopOfSource (Source.readOptionalText files path)
  if content.isNone then detail "source" ("No exclusion file at " ++ path.text)
  return content

def logAnalysis (script exclusionFile : Path) (config : Config) (result : Analysis) :
    Session Unit := do
  detail "parser" (scriptDetail script result.script)
  if let some message := exclusionDetail? exclusionFile result.exclusions then
    detail "ignorefile" message
  detail "engine" (familyDetail result.facts)
  for rule in catalog do
    if config.disabledRules.contains rule.ruleId then
      detail "engine" ("Rule " ++ rule.ruleId ++ " disabled")
  detail "engine" (verdictDetail script result.verdict)

/-- The report of an analysis, in the form that is asked for. -/
def report (terminal : Report.Terminal) (options : Options) (result : Analysis) : Text :=
  let scriptName := options.script.text
  let exclusionName := (exclusionFile options).text
  if options.json then
    Report.machine scriptName exclusionName result.exclusions result.verdict
  else
    Report.human terminal.style terminal.columns scriptName exclusionName result.verdict
      options.verbose

def stopOfFault (fault : Pattern.Fault) : Stop := .broken (.pattern fault)

/-- Checks a build script: the exit status and the report. -/
def check (environment : Environment) (options : Options) : Session (Nat × Text) := do
  let config ← settings environment options
  let lines ← scriptLines environment.files options.script
  let content ← exclusionContent environment.files (exclusionFile options)
  let result ← orStop stopOfFault (analyze lines content config)
  logAnalysis options.script (exclusionFile options) config result
  return (result.verdict.exitStatus, report environment.terminal options result)

/-- Answers the question about rules, if there is one, else checks a build
script. -/
def session (environment : Environment) (options : Options) : Session (Nat × Text) :=
  match options.explain with
  | none | some [] => check environment options
  | some question => do
    let lines ← orStop .reported (Explanation.answer question)
    return (0, Text.joinWith ['\n'] lines)

/-! ## Whole runs -/

/-- A text as it is printed, with a line end. -/
def printed (terminal : Report.Terminal) (text : Text) : Text := terminal.shown (text ++ ['\n'])

/-- What is printed of a text, unless it cannot be. -/
def print (terminal : Report.Terminal) (text : Text) : Except Breakdown Text :=
  match terminal.refusal? (printed terminal text) with
  | none => return printed terminal text
  | some reason => throw (.unprintable reason)

def failureLine (terminal : Report.Terminal) (message : Text) : Text :=
  printed terminal (terminal.style.coloured .red ("✖ ERROR: " ++ message))

def run (environment : Environment) (options : Options) : Except Breakdown Outcome :=
  let terminal := environment.terminal
  let setup := Log.Setup.of (if options.verbose then "DEBUG" else "WARNING") none
  match (session environment options).run.run [] with
  | (.ok (status, text), records) => do
    return {
      status := status
      output := ← print terminal text
      diagnostics := Log.render setup records }
  | (.error (.reported message), records) =>
    return { status := 1, diagnostics := Log.render setup records ++ failureLine terminal message }
  | (.error (.broken breakdown), _) => throw breakdown

/-- What a run leaves, also when it breaks down: then it prints nothing, and
its status is that of a failure. -/
def outcome (environment : Environment) (options : Options) : Outcome :=
  match run environment options with
  | .ok outcome => outcome
  | .error breakdown => { status := 1, diagnostics := breakdown.message ++ ['\n'] }

end Run

end ImageLint
