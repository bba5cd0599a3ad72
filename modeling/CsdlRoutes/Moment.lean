import CsdlRoutes.Number.Shortest

/-!
# Dates and moments

A date is a day of the calendar, a moment a time of day on a date. Where the distance of a moment from
universal time is known, the moment tells a point in time.

* `Date.ordinal` counts the days up to a date.
* `Moment.instant?` is the point in time that a moment tells.
* `Date.display`, `Moment.displayWith` and `Moment.quoted` are their texts in messages.
-/

namespace CsdlRoutes

open Number (padded)

/-- A day of the calendar. -/
structure Date where
  year : Nat
  month : Nat
  day : Nat
  deriving DecidableEq, Repr, Inhabited

/-- A time of day on a date, with the distance from universal time in minutes where it is known. -/
structure Moment where
  date : Date
  hour : Nat
  minute : Nat
  second : Nat
  microsecond : Nat
  offset : Option Int
  deriving DecidableEq, Repr, Inhabited

/-! ## Points in time -/

/-- The count of days before a month, in a year that is no leap year. -/
def daysBefore (month : Nat) : Nat :=
  [0, 31, 59, 90, 120, 151, 181, 212, 243, 273, 304, 334].getD (month - 1) 0

/-- Whether a year has a twenty-ninth of February. -/
def isLeapYear (year : Nat) : Bool :=
  year % 4 == 0 && (year % 100 != 0 || year % 400 == 0)

/-- The count of days up to a date and with it, from the first of January of the year 1 on. -/
def Date.ordinal (d : Date) : Nat :=
  let past := d.year - 1
  past * 365 + past / 4 - past / 100 + past / 400 + daysBefore d.month +
    (if 2 < d.month && isLeapYear d.year then 1 else 0) + d.day

/-- The point in time of a moment in microseconds, if its distance from universal time is known. -/
def Moment.instant? (m : Moment) : Option Int :=
  m.offset.map fun offset =>
    let minutes : Int := (m.date.ordinal * 24 + m.hour : Nat) * 60 + m.minute - offset
    (minutes * 60 + m.second) * 1000000 + m.microsecond

/-! ## Texts -/

/-- A date in the form year-month-day. -/
def Date.display (d : Date) : String :=
  padded 4 d.year ++ "-" ++ padded 2 d.month ++ "-" ++ padded 2 d.day

/-- The distance from universal time, in hours and minutes. -/
def offsetText (minutes : Int) : String :=
  (if minutes < 0 then "-" else "+") ++ padded 2 (minutes.natAbs / 60) ++ ":" ++
    padded 2 (minutes.natAbs % 60)

/-- A moment with a given mark between the date and the time. -/
def Moment.displayWith (mark : String) (m : Moment) : String :=
  m.date.display ++ mark ++ padded 2 m.hour ++ ":" ++ padded 2 m.minute ++ ":" ++
    padded 2 m.second ++
    (if m.microsecond = 0 then "" else "." ++ padded 6 m.microsecond) ++
    (m.offset.elim "" offsetText)

/-- The distance from universal time as messages quote it. -/
def offsetQuoted (minutes : Int) : String :=
  if minutes = 0 then "datetime.timezone.utc"
  else
    let seconds := minutes * 60
    let parts :=
      if seconds < 0 then s!"days=-1, seconds={seconds + 86400}" else s!"seconds={seconds}"
    "datetime.timezone(datetime.timedelta(" ++ parts ++ "))"

/-- A moment as messages quote it. -/
def Moment.quoted (m : Moment) : String :=
  let fields := [m.date.year, m.date.month, m.date.day, m.hour, m.minute] ++
    (if m.microsecond ≠ 0 then [m.second, m.microsecond]
     else if m.second ≠ 0 then [m.second] else [])
  "datetime.datetime(" ++ ", ".intercalate (fields.map toString) ++
    (m.offset.elim "" fun o => ", tzinfo=" ++ offsetQuoted o) ++ ")"

end CsdlRoutes
