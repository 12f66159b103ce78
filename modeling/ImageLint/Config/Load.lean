-- From a configuration value to settings. Each key is checked by itself, and
-- a key that is not known is skipped.
import ImageLint.Config.Basic
import ImageLint.Config.Problem
import ImageLint.Pattern.Reader
import ImageLint.Unicode.Casing

namespace ImageLint.Config

open Yaml (Value)

abbrev Loading := Except ConfigFailure

def refuse {α : Type} (source : Text) (problem : ConfigProblem) : Loading α :=
  .error (.refused source problem)

/-! ## Parts -/

variable [Characters]

def checkPattern (source key pattern : Text) : Loading Unit :=
  match Pattern.read pattern with
  | .ok _ => .ok ()
  | .error fault =>
    match fault.cause.kind with
    | .malformed => refuse source (.badPattern key fault)
    | _ => .error (.unsupported fault)

def textOf (value : Value) : Loading Text :=
  if value.hasText then .ok value.text else .error .unwritable

def loadCount (source key : Text) : Value → Loading Nat
  | .int (.ofNat value) => .ok value
  | _ => refuse source (.notCount key)

/-- Names with texts, a later entry replacing an earlier one whose name reads
the same. -/
def loadCatalog (source key : Text) : Value → Loading (List (Text × Text))
  | .map entries => do
    let texts ← entries.mapM fun entry => return (← textOf entry.1, ← textOf entry.2)
    return texts.foldl (fun catalog entry => setText entry.1 entry.2 catalog) []
  | _ => refuse source (.notCatalog key)
where
  /-- A name set to a text: in its old place if it has one, else at the end. -/
  setText (name text : Text) : List (Text × Text) → List (Text × Text)
    | [] => [(name, text)]
    | (old, oldText) :: rest =>
      if old == name then (old, text) :: rest else (old, oldText) :: setText name text rest

def loadTexts (source key : Text) : Value → Loading (List Text)
  | .list items => items.mapM textOf
  | _ => refuse source (.notTexts key)

def loadPatterns (source key : Text) (value : Value) : Loading (List Text) := do
  let patterns ← loadTexts source key value
  patterns.forM (checkPattern source key)
  return patterns

def loadSwitch (source key : Text) : Value → Loading Bool
  | .bool value => .ok value
  | _ => refuse source (.notSwitch key)

/-! ## Package managers -/

/-- The name of the type of a value that is not a collection. -/
def scalarTypeName : Value → Text
  | .null => "NoneType"
  | .bool _ => "bool"
  | .int _ => "int"
  | .float _ => "float"
  | .date _ => "datetime.date"
  | .moment _ => "datetime.datetime"
  | _ => "object"

/-- What a cleanup consists of: a single text, or the items of a collection. A
mapping stands for its keys. -/
def cleanupItems : Value → Loading (List Value)
  | .str pattern => .ok [.str pattern]
  | .list items | .set items => .ok items
  | .pair first second => .ok [first, second]
  | .map entries => .ok (entries.map Prod.fst)
  | .bytes bytes => .ok (bytes.map fun byte => .int byte.toNat)
  | value => .error (.notIterable (scalarTypeName value))

def loadCleanup (value : Value) : Loading (List Text) := do
  (← cleanupItems value).mapM textOf

/-- The text of a value that is there and not empty. -/
def optionalText : Option Value → Loading (Option Text)
  | some value => do
    if value.isTruthy then return some (← textOf value) else return none
  | none => return none

def refuseFamily {α : Type} (source : Text) (name : Value) : Loading α := do
  refuse source (.incompleteFamily (← textOf name))

def loadFamily (source : Text) (name settings : Value) : Loading PackageManager := do
  let .map entries := settings | refuseFamily source name
  let some detect := Value.entry? "detect" entries | refuseFamily source name
  let some install := Value.entry? "install" entries | refuseFamily source name
  let family : PackageManager := {
    name := ← textOf name
    detect := ← textOf detect
    install := ← textOf install
    update := ← optionalText (Value.entry? "update" entries)
    cleanup := ← loadCleanup ((Value.entry? "cleanup" entries).getD (.list []))
    noRecommends := ← optionalText (Value.entry? "no_recommends" entries) }
  let patterns := [family.detect, family.install] ++ family.update.toList ++ family.cleanup
  (patterns.filter (!·.isEmpty)).forM
    (checkPattern source ("package_managers." ++ family.name))
  return family

def loadFamilies (source : Text) : Value → Loading (List PackageManager)
  | .map entries => entries.mapM fun entry => loadFamily source entry.1 entry.2
  | _ => refuse source .notFamilies

/-! ## Declared rules -/

def loadRule (source : Text) (value : Value) : Loading CustomRule := do
  let .map entries := value | refuse source .incompleteRule
  let some ruleId := Value.entry? "id" entries | refuse source .incompleteRule
  let some pattern := Value.entry? "pattern" entries | refuse source .incompleteRule
  let severityName := upper (← textOf ((Value.entry? "severity" entries).getD (.str "WARNING")))
  let some severity := Severity.ofName? severityName
    | do refuse source (.unknownSeverity (← textOf ruleId) severityName)
  let pattern ← textOf pattern
  let ruleId ← textOf ruleId
  checkPattern source ("custom_rules." ++ ruleId) pattern
  return {
    ruleId := ruleId
    severity := severity
    pattern := pattern
    message := ← textOf ((Value.entry? "message" entries).getD (.str "Custom rule matched."))
    keyword := (← optionalText (Value.entry? "keyword" entries)).map upper }

def loadRules (source : Text) : Value → Loading (List CustomRule)
  | .list items => items.mapM (loadRule source)
  | _ => refuse source .notRules

/-! ## All keys -/

inductive Key where
  | runThreshold
  | minExclusionRules
  | criticalExclusions
  | advisoryExclusions
  | lightweightMarkers
  | heavyDistributions
  | treatUntaggedAsLatest
  | packageManagers
  | apkBuildDeps
  | fetchIndicators
  | tempCleanupPatterns
  | buildToolPatterns
  | unnecessaryCopyPatterns
  | disabledRules
  | customRules
  deriving DecidableEq, Repr

namespace Key

def all : List Key := [
  .runThreshold, .minExclusionRules, .criticalExclusions, .advisoryExclusions,
  .lightweightMarkers, .heavyDistributions, .treatUntaggedAsLatest, .packageManagers,
  .apkBuildDeps, .fetchIndicators, .tempCleanupPatterns, .buildToolPatterns,
  .unnecessaryCopyPatterns, .disabledRules, .customRules]

def name : Key → Text
  | .runThreshold => "run_threshold"
  | .minExclusionRules => "min_exclusion_rules"
  | .criticalExclusions => "critical_exclusions"
  | .advisoryExclusions => "advisory_exclusions"
  | .lightweightMarkers => "lightweight_markers"
  | .heavyDistributions => "heavy_distributions"
  | .treatUntaggedAsLatest => "treat_untagged_as_latest"
  | .packageManagers => "package_managers"
  | .apkBuildDeps => "apk_build_deps"
  | .fetchIndicators => "fetch_indicators"
  | .tempCleanupPatterns => "temp_cleanup_patterns"
  | .buildToolPatterns => "build_tool_patterns"
  | .unnecessaryCopyPatterns => "unnecessary_copy_patterns"
  | .disabledRules => "disabled_rules"
  | .customRules => "custom_rules"

def ofValue? : Value → Option Key
  | .str name => all.find? (·.name == name)
  | _ => none

end Key

def loadKey (source : Text) (config : Config) (key : Key) (value : Value) : Loading Config :=
  match key with
  | .runThreshold => do
    return { config with runThreshold := ← loadCount source key.name value }
  | .minExclusionRules => do
    return { config with minExclusionRules := ← loadCount source key.name value }
  | .criticalExclusions => do
    return { config with criticalExclusions := ← loadCatalog source key.name value }
  | .advisoryExclusions => do
    return { config with advisoryExclusions := ← loadCatalog source key.name value }
  | .lightweightMarkers => do
    return { config with lightweightMarkers := ← loadTexts source key.name value }
  | .heavyDistributions => do
    let catalog ← loadCatalog source key.name value
    catalog.forM fun entry => checkPattern source key.name entry.2
    return { config with heavyDistributions := catalog }
  | .treatUntaggedAsLatest => do
    return { config with treatUntaggedAsLatest := ← loadSwitch source key.name value }
  | .packageManagers => do
    return { config with packageManagers := ← loadFamilies source value }
  | .apkBuildDeps => do
    let pattern ← textOf value
    checkPattern source key.name pattern
    return { config with apkBuildDeps := pattern }
  | .fetchIndicators => do
    return { config with fetchIndicators := ← loadTexts source key.name value }
  | .tempCleanupPatterns => do
    return { config with tempCleanupPatterns := ← loadPatterns source key.name value }
  | .buildToolPatterns => do
    return { config with buildToolPatterns := ← loadPatterns source key.name value }
  | .unnecessaryCopyPatterns => do
    return { config with unnecessaryCopyPatterns := ← loadTexts source key.name value }
  | .disabledRules => do
    return { config with disabledRules := Text.distinct (← loadTexts source key.name value) }
  | .customRules => do
    return { config with customRules := ← loadRules source value }

/-- What loading gives: the keys that are not known, up to where it stopped,
and the settings. -/
structure Loaded where
  unknownKeys : List Value
  result : Loading Config

/-- Loads the entries of a mapping one after the other. -/
def loadEntries (source : Text) : Config → List (Value × Value) → Loaded
  | config, [] => ⟨[], .ok config⟩
  | config, (name, value) :: rest =>
    match Key.ofValue? name with
    | none =>
      let loaded := loadEntries source config rest
      { loaded with unknownKeys := name :: loaded.unknownKeys }
    | some key =>
      match loadKey source config key value with
      | .error failure => ⟨[], .error failure⟩
      | .ok config => loadEntries source config rest

/-- Loads a configuration value; `source` names it in messages. -/
def loadValue (source : Text) : Value → Loaded
  | .map entries => loadEntries source {} entries
  | _ => ⟨[], refuse source .notMapping⟩

/-- What is logged of a key that is not known. -/
def unknownKeyMessage (source : Text) (key : Value) : Text :=
  source ++ ": ignoring unknown config key '" ++ key.text ++ "'"

end ImageLint.Config
