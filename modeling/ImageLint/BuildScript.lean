-- A build script: its significant lines, and the commands they make up when
-- continuation lines are folded into the directive they continue.
import ImageLint.Instruction
import ImageLint.Text.Lines

namespace ImageLint

/-- A logical directive: its kind, its first line and its whole text. -/
structure Command where
  line : Nat
  keyword : Keyword
  text : Text
  malformed : Bool := false
  deriving DecidableEq, Repr

/-- The command runs while the image is built: a `RUN`, or a stray shell
line. -/
def Command.runsAtBuild (c : Command) : Bool :=
  c.keyword == .run || (c.keyword == .unknown && c.malformed)

/-- A build script: its instructions in the order of their lines. -/
structure BuildScript where
  instructions : List Instruction := []
  deriving DecidableEq, Repr

namespace BuildScript

/-! ## Reading -/

/-- The lines with the byte-order marks of the first one removed. -/
def dropMarks : List Text → List Text
  | [] => []
  | first :: rest => Text.dropMarks first :: rest

def significantLines (lines : List Text) : List (Nat × Text) :=
  (dropMarks lines).zipIdx 1 |>.filterMap fun (line, number) =>
    (Text.significant? line).map fun stripped => (number, stripped)

def isOpen (line : Text) : Bool := Text.endsWith line "\\"

def directive (number : Nat) (line : Text) : Instruction :=
  let token := line.takeWhile (!Text.isBlank ·)
  let argument := Text.strip (line.dropWhile (!Text.isBlank ·))
  match Keyword.ofToken token with
  | .unknown =>
    if Keyword.isOther token then
      { keyword := .unknown, argument := argument, line := number, raw := line }
    else
      { keyword := .unknown, argument := line, line := number, raw := line, malformed := true }
  | keyword =>
    if argument.isEmpty then
      { keyword := .unknown, argument := line, line := number, raw := line, malformed := true }
    else
      { keyword := keyword, argument := argument, line := number, raw := line }

/-- The instruction on a line that continues the directive on line `owner`. -/
def continuation (owner number : Nat) (line : Text) : Instruction :=
  { keyword := .unknown, argument := line, line := number, raw := line, continues := some owner }

def nextOwner (owner : Option Nat) (number : Nat) (line : Text) : Option Nat :=
  if isOpen line then some (owner.getD number) else none

/-- The instructions of significant lines, the first of which continues
`owner`. -/
def instructionsFrom : Option Nat → List (Nat × Text) → List Instruction
  | _, [] => []
  | owner, (number, line) :: rest =>
    (match owner with
      | some first => continuation first number line
      | none => directive number line) :: instructionsFrom (nextOwner owner number line) rest

def ofLines (lines : List Text) : BuildScript :=
  ⟨instructionsFrom none (significantLines lines)⟩

/-! ## Views -/

def ofKind (script : BuildScript) (keyword : Keyword) : List Instruction :=
  script.instructions.filter (·.keyword == keyword)

def has (script : BuildScript) (keyword : Keyword) : Bool :=
  script.instructions.any (·.keyword == keyword)

def stages (script : BuildScript) : List Instruction := script.ofKind .baseImage

/-- The instruction that names the base image: the first stage. -/
def baseImage? (script : BuildScript) : Option Instruction := script.stages.head?

/-! ## Commands -/

/-- A stripped text without the backslash it may end with. -/
def dropBackslash (text : Text) : Text :=
  let stripped := Text.strip text
  if Text.endsWith stripped "\\" then Text.stripEnd stripped.dropLast else stripped

def continuationsOf (script : BuildScript) (directive : Instruction) : List Instruction :=
  script.instructions.filter (·.continues == some directive.line)

/-- The whole text of a directive: its argument and its continuation lines,
without backslashes and with single blanks between them. -/
def commandText (script : BuildScript) (directive : Instruction) : Text :=
  Text.joinWith [' '] <|
    ((directive :: script.continuationsOf directive).map (dropBackslash ·.argument)).filter
      (!·.isEmpty)

def commands (script : BuildScript) : List Command :=
  (script.instructions.filter (·.continues.isNone)).map fun i =>
    { line := i.line, keyword := i.keyword, text := script.commandText i, malformed := i.malformed }

end BuildScript

end ImageLint
