-- The checks of what is copied into the image, and how.
import ImageLint.Facts

namespace ImageLint.Rules

def contextCopies (script : BuildScript) : List Instruction :=
  script.instructions.filter fun i =>
    (i.keyword == .copy || i.keyword == .add) && i.readsContext

def isContextRoot (source : Text) : Bool :=
  source == ".".toList || source == "./".toList

variable [Characters]

def copiesEverything (i : Instruction) : Bool :=
  1 < i.arguments.length && i.sources.all isContextRoot

def copyWholeContext (subject : Subject) : Except Pattern.Fault (List Finding) :=
  let offending := (contextCopies subject.script).filter copiesEverything
  return if offending.isEmpty then
    [.pass "copy_whole_context" 7 "COPY/ADD use specific paths."]
  else [
    { ruleId := "copy_whole_context"
      severity := .warning
      message := "'COPY .' or 'ADD .' copies the entire build context."
      lines := Finding.refs (offending.map (·.line))
      topic := 7
      tip := some "Copy specific paths, or make sure .dockerignore is thorough.".toList }]

def unnecessaryIn (patterns : List Text) (i : Instruction) : Option (Instruction × Text) :=
  (patterns.find? fun pattern => Text.holds pattern i.argument).map fun pattern => (i, pattern)

/-- Files that the image does not need are not copied. Only the first is
reported. -/
def copyUnnecessaryFiles (subject : Subject) : Except Pattern.Fault (List Finding) :=
  let patterns := subject.config.unnecessaryCopyPatterns
  return match (contextCopies subject.script).findSome? (unnecessaryIn patterns) with
  | none => []
  | some (i, pattern) => [
    { ruleId := "copy_unnecessary_files"
      severity := .warning
      message := "COPY/ADD of files usually not needed at runtime: " ++ pattern
      lines := Finding.refs [i.line]
      topic := 7 }]

/-- `ADD` is used neither for local files nor for downloads. -/
def addInsteadOfCopy (subject : Subject) : Except Pattern.Fault (List Finding) :=
  let adds := subject.script.ofKind .add
  let localLines := (adds.filter fun i => !i.sources.all isUrl).map (·.line)
  let remoteLines := (adds.filter fun i => i.sources.any isUrl).map (·.line)
  let localFinding : Finding :=
    { ruleId := "add_instead_of_copy"
      severity := .warning
      message := "ADD used for local files. Use COPY unless automatic archive extraction is needed."
      lines := Finding.refs localLines
      topic := 12 }
  let remoteFinding : Finding :=
    { ruleId := "add_instead_of_copy"
      severity := .warning
      message := "ADD downloads a remote file. Use RUN curl/wget for explicit error handling and cleanup."
      lines := Finding.refs remoteLines
      topic := 12 }
  return (if localLines.isEmpty then [] else [localFinding]) ++
    (if remoteLines.isEmpty then [] else [remoteFinding])

end ImageLint.Rules
