-- The log of a run: records with levels, and how they are shown.
import ImageLint.Unicode.Casing
import ImageLint.Text.Basic

namespace ImageLint

structure LogRecord where
  logger : Text
  /-- The level as a number: the higher the more serious. -/
  level : Nat
  message : Text
  deriving DecidableEq, Repr

namespace Log

/-- The levels with their names. Of two names for a level the first one is
shown. -/
def levels : List (Text × Nat) := [
  ("DEBUG", 10),
  ("INFO", 20),
  ("WARNING", 30),
  ("WARN", 30),
  ("ERROR", 40),
  ("CRITICAL", 50),
  ("FATAL", 50),
  ("NOTSET", 0)]

/-- The level with a name, in any letter case. A name that is not known means
a warning. -/
def levelOf (name : Text) : Nat := (levels.lookup (upper name)).getD 30

def levelName (level : Nat) : Text :=
  ((levels.find? (·.2 == level)).map Prod.fst).getD ("Level " ++ Text.ofNat level)

structure Setup where
  level : Nat := 30
  format : Text := "%(levelname)s %(name)s: %(message)s"

/-- The setup for a level and a format. An empty format means the default. -/
def Setup.of (level : Text) (format : Option Text) : Setup :=
  match format with
  | none | some [] => { level := levelOf level }
  | some format => { level := levelOf level, format := format }

/-- The least level that is shown. With no level set, it is a warning. -/
def Setup.threshold (setup : Setup) : Nat := if setup.level = 0 then 30 else setup.level

/-- The fields of a format, with what they stand for in a record. -/
def fields (record : LogRecord) : List (Text × Text) := [
  ("%(levelname)s", levelName record.level),
  ("%(name)s", record.logger),
  ("%(message)s", record.message),
  ("%%", "%")]

/-- The format after its first `skip` characters, with the fields of a record
filled in. -/
def fill (record : LogRecord) : Nat → Text → Text
  | _, [] => []
  | skip + 1, _ :: rest => fill record skip rest
  | 0, c :: rest =>
    match (fields record).find? fun field => Text.startsWith (c :: rest) field.1 with
    | some field => field.2 ++ fill record (field.1.length - 1) rest
    | none => c :: fill record 0 rest

def line (setup : Setup) (record : LogRecord) : Text := fill record 0 setup.format ++ ['\n']

def render (setup : Setup) (records : List LogRecord) : Text :=
  (records.filter fun record => setup.threshold ≤ record.level).flatMap (line setup)

end Log

end ImageLint
