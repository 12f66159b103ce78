-- The words that open a build-script line.
import ImageLint.Text.Basic
import ImageLint.Unicode.Casing

namespace ImageLint

/-- The kinds of instruction that rules look at. `unknown` is every other
line: valid instructions that no rule needs, continuations, and lines that
are no instruction. -/
inductive Keyword where
  | baseImage
  | run
  | copy
  | add
  | workdir
  | user
  | expose
  | healthcheck
  | label
  | unknown
  deriving DecidableEq, Repr

namespace Keyword

def all : List Keyword :=
  [.baseImage, .run, .copy, .add, .workdir, .user, .expose, .healthcheck, .label, .unknown]

def name : Keyword → Text
  | .baseImage => "BASE_IMAGE"
  | .run => "RUN"
  | .copy => "COPY"
  | .add => "ADD"
  | .workdir => "WORKDIR"
  | .user => "USER"
  | .expose => "EXPOSE"
  | .healthcheck => "HEALTHCHECK"
  | .label => "LABEL"
  | .unknown => "UNKNOWN"

def ofName? (name : Text) : Option Keyword := all.find? (·.name == name)

def openers : List (Text × Keyword) := [
  ("FROM", .baseImage),
  ("RUN", .run),
  ("COPY", .copy),
  ("ADD", .add),
  ("WORKDIR", .workdir),
  ("USER", .user),
  ("EXPOSE", .expose),
  ("HEALTHCHECK", .healthcheck),
  ("LABEL", .label)]

/-- The words that open the instructions no rule looks at. -/
def otherOpeners : List Text :=
  ["ENV", "ARG", "CMD", "ENTRYPOINT", "VOLUME", "STOPSIGNAL", "SHELL", "ONBUILD", "MAINTAINER"]

/-- The kind that a word opens, in any letter case. -/
def ofToken (token : Text) : Keyword := (openers.lookup (upper token)).getD .unknown

/-- The word opens an instruction that no rule looks at, in any letter case. -/
def isOther (token : Text) : Bool := otherOpeners.contains (upper token)

end Keyword

end ImageLint
