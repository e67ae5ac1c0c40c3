import GridRobot.Numeral

/-! # Dates and times

Days of the calendar, and times of a day with an offset from universal time or none. -/

namespace GridRobot

structure Date where
  year : Nat
  month : Nat
  day : Nat
  deriving DecidableEq, Repr

structure Timestamp where
  date : Date
  hour : Nat
  minute : Nat
  second : Nat
  microsecond : Nat
  /-- The offset from universal time in minutes. -/
  offset : Option Int
  deriving DecidableEq, Repr

/-- Why numbers are no date or time. -/
inductive TimeError where
  | year (year : Nat)
  | month
  | day
  | hour
  | minute
  | second
  | offset (minutes : Int)
  deriving DecidableEq, Repr

/-- Digits with zeros in front up to `width`. -/
def paddedDigits (width n : Nat) : Text :=
  let ds := Numeral.digits n
  List.replicate (width - ds.length) '0' ++ ds

/-- A span of minutes, in whole days and the seconds left. -/
def shownSpan (minutes : Int) : Text :=
  let days := minutes.fdiv 1440
  let seconds := (minutes.fmod 1440) * 60
  let parts : List Text :=
    (if days = 0 then [] else ["days=".toList ++ Numeral.text days]) ++
      (if seconds = 0 then [] else ["seconds=".toList ++ Numeral.text seconds])
  "datetime.timedelta(".toList ++
    (if parts.isEmpty then ['0'] else [',', ' '].intercalate parts) ++ [')']

def TimeError.message : TimeError → Text
  | year y => "year ".toList ++ Numeral.digits y ++ " is out of range".toList
  | month => "month must be in 1..12".toList
  | day => "day is out of range for month".toList
  | hour => "hour must be in 0..23".toList
  | minute => "minute must be in 0..59".toList
  | second => "second must be in 0..59".toList
  | offset m =>
    "offset must be a timedelta strictly between -timedelta(hours=24) and timedelta(hours=24), not ".toList ++
      shownSpan m ++ ['.']

namespace Date

def isLeap (year : Nat) : Bool :=
  year % 4 = 0 && (year % 100 ≠ 0 || year % 400 = 0)

def daysInMonth (year month : Nat) : Nat :=
  match month with
  | 2 => if isLeap year then 29 else 28
  | 4 | 6 | 9 | 11 => 30
  | _ => 31

/-- The number of days from the start of the calendar to this one. -/
def number (d : Date) : Nat :=
  let y := d.year - 1
  let before := 365 * y + y / 4 - y / 100 + y / 400 + d.day
  (List.range (d.month - 1)).foldl (fun n m => n + daysInMonth d.year (m + 1)) before

/-- The day of the calendar with these numbers. -/
def ofNumbers (year month day : Nat) : Except TimeError Date :=
  if year = 0 ∨ 9999 < year then .error (.year year)
  else if month = 0 ∨ 12 < month then .error .month
  else if day = 0 ∨ daysInMonth year month < day then .error .day
  else .ok ⟨year, month, day⟩

def text (d : Date) : Text :=
  paddedDigits 4 d.year ++ '-' :: paddedDigits 2 d.month ++ '-' :: paddedDigits 2 d.day

def shown (d : Date) : Text :=
  "datetime.date(".toList ++
    [',', ' '].intercalate ([d.year, d.month, d.day].map Numeral.digits) ++ [')']

end Date

namespace Timestamp

/-- The time with these numbers. Offsets are less than a day. -/
def ofNumbers (year month day hour minute second microsecond : Nat) (offset : Option Int) :
    Except TimeError Timestamp := do
  match offset with
  | some m => if 1440 ≤ m.natAbs then throw (.offset m)
  | none => pure ()
  let date ← Date.ofNumbers year month day
  if 23 < hour then throw .hour
  if 59 < minute then throw .minute
  if 59 < second then throw .second
  return ⟨date, hour, minute, second, microsecond, offset⟩

/-- Microseconds from the start of the calendar, by the clock of the time. -/
def clock (t : Timestamp) : Nat :=
  ((t.date.number * 24 + t.hour) * 60 + t.minute) * 60000000 + t.second * 1000000 + t.microsecond

/-- Both times are at the same moment. Without an offset it is not known when a time with one is. -/
def isSame (t u : Timestamp) : Bool :=
  match t.offset, u.offset with
  | none, none => t.clock = u.clock
  | some m, some n => (t.clock : Int) - m * 60000000 = u.clock - n * 60000000
  | _, _ => false

def offsetText (minutes : Int) : Text :=
  (if minutes < 0 then '-' else '+') ::
    paddedDigits 2 (minutes.natAbs / 60) ++ ':' :: paddedDigits 2 (minutes.natAbs % 60)

def text (t : Timestamp) : Text :=
  t.date.text ++ ' ' :: paddedDigits 2 t.hour ++ ':' :: paddedDigits 2 t.minute ++
    ':' :: paddedDigits 2 t.second ++
    (if t.microsecond = 0 then [] else '.' :: paddedDigits 6 t.microsecond) ++
    (t.offset.map offsetText).getD []

def shownZone (minutes : Int) : Text :=
  if minutes = 0 then "datetime.timezone.utc".toList
  else "datetime.timezone(".toList ++ shownSpan minutes ++ [')']

/-- Seconds and microseconds are left out where they are zero. -/
def shown (t : Timestamp) : Text :=
  let numbers := [t.date.year, t.date.month, t.date.day, t.hour, t.minute] ++
    (if t.microsecond ≠ 0 then [t.second, t.microsecond]
      else if t.second ≠ 0 then [t.second] else [])
  "datetime.datetime(".toList ++ [',', ' '].intercalate (numbers.map Numeral.digits) ++
    (t.offset.map fun m => ", tzinfo=".toList ++ shownZone m).getD [] ++ [')']

end Timestamp

end GridRobot
