-- Days and times of the calendar, what is wrong with those that do not
-- exist, and their texts.
import ImageLint.Text.Basic

namespace ImageLint

/-! ## Days and moments -/

structure Date where
  year : Nat
  month : Nat
  day : Nat
  deriving DecidableEq, Repr

/-- A time of a day, with its distance from universal time in seconds if that
is known. -/
structure Moment where
  date : Date
  hour : Nat
  minute : Nat
  second : Nat
  microsecond : Nat := 0
  offset : Option Int := none
  deriving DecidableEq, Repr

def padded (width n : Nat) : Text :=
  let digits := Text.ofNat n
  List.replicate (width - digits.length) '0' ++ digits

def Date.text (d : Date) : Text :=
  padded 4 d.year ++ "-" ++ padded 2 d.month ++ "-" ++ padded 2 d.day

/-- The distance from universal time, with seconds only where they matter. -/
def offsetText (offset : Int) : Text :=
  let size := offset.natAbs
  (if offset < 0 then ['-'] else ['+']) ++ padded 2 (size / 3600) ++ ":" ++
    padded 2 (size / 60 % 60) ++ (if size % 60 = 0 then [] else ':' :: padded 2 (size % 60))

def Moment.text (m : Moment) : Text :=
  m.date.text ++ " " ++ padded 2 m.hour ++ ":" ++ padded 2 m.minute ++ ":" ++ padded 2 m.second ++
    (if m.microsecond = 0 then [] else '.' :: padded 6 m.microsecond) ++
    (match m.offset with
      | none => []
      | some offset => offsetText offset)

def callText (name : Text) (items : List Text) : Text :=
  name ++ "(" ++ Text.joinWith ", " items ++ ")"

def Date.quotedText (d : Date) : Text :=
  callText "datetime.date" [Text.ofNat d.year, Text.ofNat d.month, Text.ofNat d.day]

/-- A length of time, not zero, inside a larger value: a whole number of days,
which may be negative, and the seconds above it. -/
def durationText (duration : Int) : Text :=
  let days := duration / 86400
  let seconds := duration % 86400
  let dayText : List Text := if days = 0 then [] else ["days=" ++ Text.ofInt days]
  let secondText : List Text := if seconds = 0 then [] else ["seconds=" ++ Text.ofInt seconds]
  callText "datetime.timedelta" (dayText ++ secondText)

def zoneText (offset : Int) : Text :=
  if offset = 0 then "datetime.timezone.utc"
  else callText "datetime.timezone" [durationText offset]

/-- A moment inside a larger value. Seconds of zero are left out, and
microseconds of zero. -/
def Moment.quotedText (m : Moment) : Text :=
  let clock := [m.hour, m.minute] ++
    (if m.microsecond = 0 then (if m.second = 0 then [] else [m.second])
      else [m.second, m.microsecond])
  let zone : List Text := match m.offset with
    | none => []
    | some offset => ["tzinfo=" ++ zoneText offset]
  callText "datetime.datetime"
    (([m.date.year, m.date.month, m.date.day] ++ clock).map Text.ofNat ++ zone)

/-! ## What the calendar has -/

inductive DateProblem where
  | year (value : Nat)
  | month
  | day
  | hour
  | minute
  | second
  /-- The distance from universal time is a day or more. -/
  | offset (value : Int)
  deriving DecidableEq, Repr

def DateProblem.message : DateProblem → Text
  | .year value => "year " ++ Text.ofNat value ++ " is out of range"
  | .month => "month must be in 1..12"
  | .day => "day is out of range for month"
  | .hour => "hour must be in 0..23"
  | .minute => "minute must be in 0..59"
  | .second => "second must be in 0..59"
  | .offset value =>
    "offset must be a timedelta strictly between -timedelta(hours=24) and " ++
      "timedelta(hours=24), not " ++ durationText value ++ "."

def isLeap (year : Nat) : Bool := year % 4 == 0 && (year % 100 != 0 || year % 400 == 0)

def daysIn (year month : Nat) : Nat :=
  if month = 2 then (if isLeap year then 29 else 28)
  else if [4, 6, 9, 11].contains month then 30
  else 31

/-- The first problem of a day, if it has one. -/
def Date.problem? (d : Date) : Option DateProblem :=
  if d.year < 1 || 9999 < d.year then some (.year d.year)
  else if d.month < 1 || 12 < d.month then some .month
  else if d.day < 1 || daysIn d.year d.month < d.day then some .day
  else none

/-- The first problem of a time of a day, if it has one. -/
def Moment.clockProblem? (m : Moment) : Option DateProblem :=
  if 23 < m.hour then some .hour
  else if 59 < m.minute then some .minute
  else if 59 < m.second then some .second
  else none

/-- The problem of the distance from universal time, if it has one. -/
def Moment.offsetProblem? (m : Moment) : Option DateProblem :=
  match m.offset with
  | some offset => if offset.natAbs < 86400 then none else some (.offset offset)
  | none => none

/-- The first problem of a moment, if it has one. -/
def Moment.problem? (m : Moment) : Option DateProblem :=
  m.offsetProblem? <|> m.date.problem? <|> m.clockProblem?

end ImageLint
