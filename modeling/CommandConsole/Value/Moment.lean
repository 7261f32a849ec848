import CommandConsole.Number.Integer

/-!
# Dates and times

The moments that a settings document may name: a date, a time of day, or both, with or without an
offset from universal time. `isoText` writes them in the usual notation, `quoted` as the call that
would build them.
-/

namespace CommandConsole

open CommandConsole.Number

/-- A calendar date. -/
structure Date where
  year : Nat
  month : Nat
  day : Nat
  deriving DecidableEq, Repr

/-- A time of day. -/
structure TimeOfDay where
  hour : Nat
  minute : Nat
  second : Nat
  microsecond : Nat
  deriving DecidableEq, Repr

/-- A date, a time, or both; the offset from universal time is in minutes. -/
inductive Moment where
  | date (d : Date)
  | time (t : TimeOfDay)
  | dateTime (d : Date) (t : TimeOfDay) (offset : Option Int)
  deriving DecidableEq, Repr

namespace Date

/-- Whether a year has a 29th of February. -/
def isLeap (year : Nat) : Bool :=
  year % 4 == 0 && (year % 100 != 0 || year % 400 == 0)

/-- The number of days of a month. -/
def daysIn (year month : Nat) : Nat :=
  if month == 2 then (if isLeap year then 29 else 28)
  else if month == 4 || month == 6 || month == 9 || month == 11 then 30
  else 31

/-- Whether the calendar has the date. -/
def isValid (d : Date) : Bool :=
  1 ≤ d.year && 1 ≤ d.month && d.month ≤ 12 && 1 ≤ d.day && d.day ≤ daysIn d.year d.month

/-- The date that is `days` after the first of March of the year 0. Years that begin in March have
their leap day last, so that the months before it have fixed lengths. -/
def ofDays (days : Nat) : Date :=
  let inEra := days % 146097
  let yearOfEra := (inEra - inEra / 1460 + inEra / 36524 - inEra / 146096) / 365
  let inYear := inEra - (365 * yearOfEra + yearOfEra / 4 - yearOfEra / 100)
  let fromMarch := (5 * inYear + 2) / 153
  let month := if fromMarch < 10 then fromMarch + 3 else fromMarch - 9
  ⟨yearOfEra + days / 146097 * 400 + (if month ≤ 2 then 1 else 0), month,
    inYear - (153 * fromMarch + 2) / 5 + 1⟩

end Date

namespace Moment

/-- The moment that is `seconds` after the start of the year 1970, in universal time. -/
def ofSeconds (seconds : Nat) : Moment :=
  let s := seconds % 86400
  .dateTime (.ofDays (719468 + seconds / 86400)) ⟨s / 3600, s / 60 % 60, s % 60, 0⟩ none

/-- The decimal digits of `n`, padded with zeros to `width`. -/
def padded (width n : Nat) : String :=
  let ds := Nat.toDigits 10 n
  .ofList (List.replicate (width - ds.length) '0' ++ ds)

/-- A date as year, month and day. -/
def dateText (d : Date) : String :=
  s!"{padded 4 d.year}-{padded 2 d.month}-{padded 2 d.day}"

/-- A time as hour, minute and second, with six further digits if it has a fraction. -/
def timeText (t : TimeOfDay) : String :=
  s!"{padded 2 t.hour}:{padded 2 t.minute}:{padded 2 t.second}" ++
    if t.microsecond == 0 then "" else "." ++ padded 6 t.microsecond

/-- An offset as a sign, hours and minutes. -/
def offsetText : Option Int → String
  | none => ""
  | some o =>
    (if o < 0 then "-" else "+") ++ s!"{padded 2 (o.natAbs / 60)}:{padded 2 (o.natAbs % 60)}"

/-- A moment with `separator` between date and time. -/
def textWith (separator : String) : Moment → String
  | .date d => dateText d
  | .time t => timeText t
  | .dateTime d t o => dateText d ++ separator ++ timeText t ++ offsetText o

/-- A moment with the letter T between date and time. -/
def isoText (m : Moment) : String :=
  m.textWith "T"

/-- A moment with a space between date and time. -/
def text (m : Moment) : String :=
  m.textWith " "

/-- The arguments for a time: seconds and microseconds only as far as they are not zero. -/
def timeArguments (t : TimeOfDay) : List String :=
  [toString t.hour, toString t.minute] ++
    if t.microsecond != 0 then [toString t.second, toString t.microsecond]
    else if t.second != 0 then [toString t.second]
    else []

/-- The call that builds an offset: a negative one counts seconds from the day before. -/
def offsetCall (o : Int) : String :=
  if o == 0 then "datetime.timezone.utc"
  else
    let inner := if o < 0 then s!"days=-1, seconds={integerText (86400 + o * 60)}"
      else s!"seconds={integerText (o * 60)}"
    s!"datetime.timezone(datetime.timedelta({inner}))"

/-- The call that builds a moment. -/
def quoted : Moment → String
  | .date d => s!"datetime.date({d.year}, {d.month}, {d.day})"
  | .time t => "datetime.time(" ++ ", ".intercalate (timeArguments t) ++ ")"
  | .dateTime d t o =>
    let zone := match o with
      | none => []
      | some o => ["tzinfo=" ++ offsetCall o]
    let arguments := [toString d.year, toString d.month, toString d.day] ++ timeArguments t ++ zone
    "datetime.datetime(" ++ ", ".intercalate arguments ++ ")"

end Moment

end CommandConsole
