-- One line of a build script and its arguments.
import ImageLint.Json.Reader
import ImageLint.Keyword

namespace ImageLint

structure Instruction where
  keyword : Keyword
  /-- What follows the opening word. A line that is no instruction, or that
  continues another, has no opening word, and this is the whole line. -/
  argument : Text
  line : Nat
  /-- The line without blanks at its ends. -/
  raw : Text := []
  continues : Option Nat := none
  /-- The opening word is no instruction, or nothing follows it. -/
  malformed : Bool := false
  deriving DecidableEq, Repr

namespace Instruction

/-! ## Arguments -/

variable [Characters]

/-- The items of an argument in the bracketed form: an array of strings. -/
def bracketed? (argument : Text) : Option (List Text) :=
  if Text.startsWith argument "[" then (Json.parse? argument).bind Json.asTexts? else none

def isFlag (word : Text) : Bool := Text.startsWith word "--"

/-- The positional arguments: the items of the bracketed form, or the words
that are not options. -/
def arguments (i : Instruction) : List Text :=
  let argument := Text.strip i.argument
  match bracketed? argument with
  | some items => items
  | none => (Text.words argument).filter (!isFlag ·)

/-! ## What each kind of instruction says -/

/-- The image that a stage is built on: the first argument. -/
def imageReference (i : Instruction) : Text := i.arguments.head?.getD []

/-- The name of a stage: the last of at least three arguments, when `as`
stands before it. -/
def stageName? (i : Instruction) : Option Text :=
  match i.arguments.reverse with
  | name :: word :: _ :: _ => if lower word == "as".toList then some name else none
  | _ => none

/-- What a copy reads: every argument but the last, or the only one. -/
def sources (i : Instruction) : List Text :=
  match i.arguments with
  | [only] => [only]
  | arguments => arguments.dropLast

/-- A copy reads the build context and not another stage. -/
def readsContext (i : Instruction) : Bool := !Text.holds "--from=" (lower i.argument)

def rootUsers : List Text := ["root", "0"]

/-- The user is the root user. A group may follow the name after a colon. -/
def isRoot (i : Instruction) : Bool :=
  match i.arguments with
  | [] => false
  | user :: _ => rootUsers.contains (lower (user.takeWhile (· != ':')))

end Instruction

def isUrl (source : Text) : Bool :=
  Text.startsWith (lower source) "http://" || Text.startsWith (lower source) "https://"

end ImageLint
