import BindingAudit.Text.Search

/-!
# Dates and times

Dates, times of day and points in time, as the documents write them.  The audit does nothing with
them but check that they exist and show them.
-/

namespace BindingAudit

/-- A time of day. -/
structure Clock where
  hour : Nat
  minute : Nat
  second : Nat
  microsecond : Nat := 0
deriving DecidableEq, Repr

/-- A day of the calendar. -/
structure Day where
  year : Nat
  month : Nat
  day : Nat
deriving DecidableEq, Repr

/-- A date, a point in time with an optional offset from universal time in minutes, or a time of
day. -/
inductive Moment where
  | date (d : Day)
  | dateTime (d : Day) (c : Clock) (zone : Option Int)
  | time (c : Clock)
deriving DecidableEq, Repr

/-- Why a date or time does not exist. -/
inductive MomentFault where
  | year (n : Nat)
  | month
  | day
  | hour
  | minute
  | second
  | zone (minutes : Int)
deriving DecidableEq, Repr

/-- A span of minutes as messages show it. -/
def showMinutes (minutes : Int) : String :=
  let days := Int.fdiv minutes 1440
  let seconds := (Int.fmod minutes 1440) * 60
  let dayPart := if days = 0 then [] else ["days=" ++ toString days]
  let secondPart := if seconds = 0 then [] else ["seconds=" ++ toString seconds]
  "datetime.timedelta(" ++ String.intercalate ", " (dayPart ++ secondPart) ++ ")"

/-- The wording of a fault. -/
def MomentFault.message : MomentFault → String
  | .year n => "year " ++ toString n ++ " is out of range"
  | .month => "month must be in 1..12"
  | .day => "day is out of range for month"
  | .hour => "hour must be in 0..23"
  | .minute => "minute must be in 0..59"
  | .second => "second must be in 0..59"
  | .zone minutes =>
    "offset must be a timedelta strictly between -timedelta(hours=24) and timedelta(hours=24), not "
      ++ showMinutes minutes ++ "."

/-- The microseconds a fraction of a second written in digits amounts to; digits after the sixth
do not count. -/
def microseconds (fraction : List Char) : Nat :=
  let digits := fraction.take 6
  Text.readDigits 10 (digits ++ List.replicate (6 - digits.length) '0')

namespace Day

/-- Whether a year has a 29th of February. -/
def isLeapYear (year : Nat) : Bool :=
  year % 4 == 0 && (year % 100 != 0 || year % 400 == 0)

/-- The number of days of a month. -/
def daysInMonth (year month : Nat) : Nat :=
  if month == 2 then (if isLeapYear year then 29 else 28)
  else if month == 4 || month == 6 || month == 9 || month == 11 then 30
  else 31

/-- Why a day does not exist, if it does not. -/
def fault? (d : Day) : Option MomentFault :=
  if d.year == 0 then some (.year d.year)
  else if d.month == 0 || 12 < d.month then some .month
  else if d.day == 0 || daysInMonth d.year d.month < d.day then some .day
  else none

/-- The number of days before a day, from the start of the year zero. -/
def number (d : Day) : Nat :=
  let years := d.year - 1
  365 * d.year + years / 4 - years / 100 + years / 400
    + ((List.range (d.month - 1)).map fun m => daysInMonth d.year (m + 1)).foldr (· + ·) 0
    + d.day

/-- A day in the form `2020-01-31`. -/
def shown (d : Day) : String :=
  String.ofList (Text.paddedDecimal 4 d.year ++ ['-'] ++ Text.paddedDecimal 2 d.month ++ ['-']
    ++ Text.paddedDecimal 2 d.day)

end Day

namespace Clock

/-- Why a time of day does not exist, if it does not. -/
def fault? (c : Clock) : Option MomentFault :=
  if 23 < c.hour then some .hour
  else if 59 < c.minute then some .minute
  else if 59 < c.second then some .second
  else none

/-- A time in the form `12:30:00`, with six decimals unless they are zero. -/
def shown (c : Clock) : String :=
  String.ofList (Text.paddedDecimal 2 c.hour ++ [':'] ++ Text.paddedDecimal 2 c.minute ++ [':']
    ++ Text.paddedDecimal 2 c.second
    ++ (if c.microsecond == 0 then [] else '.' :: Text.paddedDecimal 6 c.microsecond))

/-- The parts of a time, without zeros at the end beyond the minute. -/
def parts (c : Clock) : List Nat :=
  [c.hour, c.minute]
    ++ (if c.microsecond == 0 then (if c.second == 0 then [] else [c.second])
        else [c.second, c.microsecond])

end Clock

namespace Moment

/-- Why a moment does not exist, if it does not. -/
def fault? : Moment → Option MomentFault
  | .date d => d.fault?
  | .time c => c.fault?
  | .dateTime d c zone =>
    match zone with
    | some z => if z.natAbs < 1440 then d.fault?.or c.fault? else some (.zone z)
    | none => d.fault?.or c.fault?

/-- An offset from universal time in the form `+01:00`. -/
def zoneShown (minutes : Int) : String :=
  (if minutes < 0 then "-" else "+") ++ String.ofList (Text.paddedDecimal 2 (minutes.natAbs / 60))
    ++ ":" ++ String.ofList (Text.paddedDecimal 2 (minutes.natAbs % 60))

/-- An offset from universal time as it shows inside a collection. -/
def zoneInner (minutes : Int) : String :=
  if minutes == 0 then "datetime.timezone.utc"
  else "datetime.timezone(" ++ showMinutes minutes ++ ")"

/-- The numbers of a list as they show inside a collection. -/
def listed (ns : List Nat) : String :=
  String.intercalate ", " (ns.map toString)

/-- The name of a moment's kind. -/
def kindName : Moment → String
  | .date _ => "datetime.date"
  | .time _ => "datetime.time"
  | .dateTime .. => "datetime.datetime"

/-- A moment as text of its own. -/
def shown : Moment → String
  | .date d => d.shown
  | .time c => c.shown
  | .dateTime d c zone => d.shown ++ " " ++ c.shown ++ (zone.map zoneShown).getD ""

/-- A moment as it shows inside a collection. -/
def inner : Moment → String
  | .date d => "datetime.date(" ++ listed [d.year, d.month, d.day] ++ ")"
  | .time c => "datetime.time(" ++ listed c.parts ++ ")"
  | .dateTime d c zone =>
    "datetime.datetime(" ++ listed ([d.year, d.month, d.day] ++ c.parts)
      ++ (zone.map fun z => ", tzinfo=" ++ zoneInner z).getD "" ++ ")"

/-- The microseconds from the first day of the calendar to a point in universal time. -/
def instant (d : Day) (c : Clock) (zone : Int) : Int :=
  let minutes : Int := ((d.number * 24 + c.hour) * 60 + c.minute : Nat) - zone
  (minutes * 60 + c.second) * 1000000 + c.microsecond

/-- Whether two moments are one: points in time with offsets are if they are the same in
universal time. -/
def same : Moment → Moment → Bool
  | .dateTime d c (some z), .dateTime e f (some y) => instant d c z == instant e f y
  | a, b => a == b

end Moment

end BindingAudit
