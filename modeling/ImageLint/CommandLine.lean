-- The options of a run and how a command line gives them. Options and other
-- arguments may be mixed, letters of options without values may be joined, a
-- value may be attached to its option, and the last value given wins.
import ImageLint.Number.Integer
import ImageLint.Source

namespace ImageLint

/-! ## Switches -/

inductive Switch where
  | context
  | exclusionFile
  | config
  | disable
  | runThreshold
  | minExclusionRules
  | json
  | verbose
  | explain
  deriving DecidableEq, Repr

namespace Switch

def all : List Switch :=
  [.context, .exclusionFile, .config, .disable, .runThreshold, .minExclusionRules, .json, .verbose,
    .explain]

def name : Switch → Text
  | .context => "--context"
  | .exclusionFile => "--ignore-file"
  | .config => "--config"
  | .disable => "--disable"
  | .runThreshold => "--run-threshold"
  | .minExclusionRules => "--min-exclusion-rules"
  | .json => "--json"
  | .verbose => "--verbose"
  | .explain => "--explain"

def letter? : Switch → Option Char
  | .context => some 'C'
  | .exclusionFile => some 'i'
  | .config => some 'c'
  | .disable => some 'd'
  | .runThreshold => none
  | .minExclusionRules => none
  | .json => some 'j'
  | .verbose => some 'v'
  | .explain => some 'e'

/-- A value must follow the switch. -/
def takesValue : Switch → Bool
  | .json | .verbose => false
  | _ => true

def ofName? (name : Text) : Option Switch := all.find? (·.name == name)

def ofLetter? (letter : Char) : Option Switch := all.find? (·.letter? == some letter)

end Switch

/-! ## Mistakes -/

inductive UsageError where
  | unknownSwitch (name : Text)
  | missingValue (switch : Switch)
  | needlessValue (switch : Switch)
  | notInteger (switch : Switch) (value : Text)
  | tooSmall (switch : Switch) (value least : Int)
  | extraArgument (argument : Text)
  deriving DecidableEq, Repr

def UsageError.message : UsageError → Text
  | .unknownSwitch name => "No such option: " ++ name
  | .missingValue switch => "Option '" ++ switch.name ++ "' requires an argument."
  | .needlessValue switch => "Option '" ++ switch.name ++ "' does not take a value."
  | .notInteger switch value =>
    "Invalid value for '" ++ switch.name ++ "': '" ++ value ++ "' is not a valid integer."
  | .tooSmall switch value least =>
    "Invalid value for '" ++ switch.name ++ "': " ++ Text.ofInt value ++ " is not in the range x>=" ++
      Text.ofInt least ++ "."
  | .extraArgument argument => "Got unexpected extra argument (" ++ argument ++ ")"

namespace CommandLine

/-! ## Reading switches -/

abbrev Setting := Switch × Text

/-- Reads joined letters: the switches found, and the one that still waits for
its value. What follows the letter of a switch with a value is its value. -/
def readLetters : Text → Except UsageError (List Setting × Option Switch)
  | [] => return ([], none)
  | letter :: rest =>
    match Switch.ofLetter? letter with
    | none => throw (.unknownSwitch ['-', letter])
    | some switch =>
      if switch.takesValue then
        return if rest.isEmpty then ([], some switch) else ([(switch, rest)], none)
      else do
        let (settings, waiting) ← readLetters rest
        return ((switch, []) :: settings, waiting)

/-- Reads an argument that is a switch with its long name, to which a value
may be attached. -/
def readNamed (switch : Switch) (value : Option Text) :
    Except UsageError (List Setting × Option Switch) :=
  match switch.takesValue, value with
  | true, some value => return ([(switch, value)], none)
  | true, none => return ([], some switch)
  | false, some _ => throw (.needlessValue switch)
  | false, none => return ([(switch, [])], none)

def readSwitch (argument : Text) : Except UsageError (List Setting × Option Switch) :=
  let (name, value) : Text × Option Text := match Text.cutAt '=' argument with
    | some (name, value) => (name, some value)
    | none => (argument, none)
  match Switch.ofName? name with
  | some switch => readNamed switch value
  | none =>
    if Text.startsWith argument "--" then throw (.unknownSwitch name)
    else readLetters (argument.drop 1)

/-- The argument is a switch. A dash by itself is not. -/
def isSwitch (argument : Text) : Bool := argument.head? == some '-' && 1 < argument.length

/-- What a command line gives: settings in order, and other arguments. -/
structure Arguments where
  settings : List Setting := []
  others : List Text := []
  deriving DecidableEq, Repr

/-- Reads all arguments. After two dashes none is a switch. -/
def readAll : List Text → Except UsageError Arguments
  | [] => return {}
  | argument :: rest =>
    if argument == "--".toList then return { others := rest }
    else if isSwitch argument then do
      let (found, waiting) ← readSwitch argument
      match waiting, rest with
      | none, rest =>
        let after ← readAll rest
        return { after with settings := found ++ after.settings }
      | some switch, [] => throw (.missingValue switch)
      | some switch, value :: rest =>
        let after ← readAll rest
        return { after with settings := found ++ (switch, value) :: after.settings }
    else do
      let after ← readAll rest
      return { after with others := argument :: after.others }

def Arguments.given (arguments : Arguments) (switch : Switch) : List Text :=
  (arguments.settings.filter (·.1 == switch)).map Prod.snd

def Arguments.last? (arguments : Arguments) (switch : Switch) : Option Text :=
  (arguments.given switch).getLast?

/-- The number given to a switch last, which must not be too small. -/
def Arguments.count? (arguments : Arguments) (switch : Switch) (least : Nat) :
    Except UsageError (Option Nat) :=
  match arguments.last? switch with
  | none => return none
  | some text =>
    match Integer.read? text with
    | none => throw (.notInteger switch text)
    | some value =>
      if value < least then throw (.tooSmall switch value least) else return some value.toNat

end CommandLine

/-! ## Options -/

structure Options where
  script : Path := Path.ofText Source.defaultScript
  context : Path := {}
  exclusionFile : Option Path := none
  configFile : Option Path := none
  disabledRules : List Text := []
  runThreshold : Option Nat := none
  minExclusionRules : Option Nat := none
  json : Bool := false
  verbose : Bool := false
  explain : Option Text := none
  deriving DecidableEq, Repr

def Options.ofArguments (arguments : List Text) : Except UsageError Options := do
  let read ← CommandLine.readAll arguments
  let runThreshold ← read.count? .runThreshold 0
  let minExclusionRules ← read.count? .minExclusionRules 1
  let script ← match read.others with
    | [] => pure (Path.ofText Source.defaultScript)
    | [script] => pure (Path.ofText script)
    | _ :: extra :: _ => throw (UsageError.extraArgument extra)
  return {
    script := script
    context := ((read.last? .context).map Path.ofText).getD {}
    exclusionFile := (read.last? .exclusionFile).map Path.ofText
    configFile := (read.last? .config).map Path.ofText
    disabledRules := read.given .disable
    runThreshold := runThreshold
    minExclusionRules := minExclusionRules
    json := !(read.given .json).isEmpty
    verbose := !(read.given .verbose).isEmpty
    explain := read.last? .explain }

end ImageLint
