/-
  CallSites.Document.Time

  Calendar dates and times of day in documents, and their texts. A date outside the calendar or a
  time outside the day raises an exception.
-/
import CallSites.Exception

namespace CallSites.Document

/-- A day of the calendar. -/
structure Date where
  year : Nat
  month : Nat
  day : Nat
  deriving DecidableEq, Repr

/-- A day with a time. The distance from universal time is in seconds, where it is known. -/
structure DateTime where
  date : Date
  hour : Nat
  minute : Nat
  second : Nat
  microsecond : Nat
  offset : Option Int
  deriving DecidableEq, Repr

private def isLeapYear (year : Nat) : Bool :=
  year % 4 == 0 && (year % 100 != 0 || year % 400 == 0)

private def daysInMonth (year month : Nat) : Nat :=
  if month = 2 then (if isLeapYear year then 29 else 28)
  else if month ∈ [4, 6, 9, 11] then 30
  else 31

private def require (holds : Bool) (message : String) : Except Exception Unit :=
  if holds then .ok () else .error (.valueError message)

/-- Raises an exception unless the calendar has the day. -/
def Date.check (date : Date) : Except Exception Unit := do
  require (1 ≤ date.year && date.year ≤ 9999) ("year " ++ toString date.year ++ " is out of range")
  require (1 ≤ date.month && date.month ≤ 12) "month must be in 1..12"
  require (1 ≤ date.day && date.day ≤ daysInMonth date.year date.month)
    "day is out of range for month"

/-- Raises an exception unless the day and the time exist. -/
def DateTime.check (time : DateTime) : Except Exception Unit := do
  time.date.check
  require (time.hour < 24) "hour must be in 0..23"
  require (time.minute < 60) "minute must be in 0..59"
  require (time.second < 60) "second must be in 0..59"

/-- How a duration in seconds is shown. Days count towards the past where it is negative. -/
private def durationShown (seconds : Int) : String :=
  let days := seconds / 86400
  let rest := seconds % 86400
  let parts := (if days = 0 then [] else ["days=" ++ toString days]) ++
    (if rest = 0 then [] else ["seconds=" ++ toString rest])
  "datetime.timedelta(" ++ ", ".intercalate parts ++ ")"

/-- Raises an exception unless the offset from universal time is less than a day. -/
def checkOffset (offset : Int) : Except Exception Unit :=
  require (offset.natAbs < 86400)
    ("offset must be a timedelta strictly between -timedelta(hours=24) and timedelta(hours=24)" ++
      ", not " ++ durationShown offset ++ ".")

private def padded (width n : Nat) : String :=
  let digits := Nat.toDigits 10 n
  String.ofList (List.replicate (width - digits.length) '0' ++ digits)

/-- The text of a day: `2024-01-02`. -/
def Date.text (date : Date) : String :=
  padded 4 date.year ++ "-" ++ padded 2 date.month ++ "-" ++ padded 2 date.day

/-- How a day is shown inside a message. -/
def Date.shown (date : Date) : String :=
  "datetime.date(" ++ toString date.year ++ ", " ++ toString date.month ++ ", " ++
    toString date.day ++ ")"

private def offsetText (offset : Int) : String :=
  let size := offset.natAbs
  let seconds := if size % 60 = 0 then "" else ":" ++ padded 2 (size % 60)
  (if offset < 0 then "-" else "+") ++ padded 2 (size / 3600) ++ ":" ++
    padded 2 (size / 60 % 60) ++ seconds

/-- The text of a day and time: `2024-01-02 03:04:05`. -/
def DateTime.text (time : DateTime) : String :=
  let fraction := if time.microsecond = 0 then "" else "." ++ padded 6 time.microsecond
  time.date.text ++ " " ++ padded 2 time.hour ++ ":" ++ padded 2 time.minute ++ ":" ++
    padded 2 time.second ++ fraction ++ (time.offset.map offsetText).getD ""

private def offsetShown (offset : Int) : String :=
  if offset = 0 then "datetime.timezone.utc"
  else "datetime.timezone(" ++ durationShown offset ++ ")"

/-- How a day and time are shown inside a message. Seconds are left out when nothing after the
    minutes is above zero. -/
def DateTime.shown (time : DateTime) : String :=
  let base := [time.date.year, time.date.month, time.date.day, time.hour, time.minute]
  let parts :=
    if time.microsecond ≠ 0 then base ++ [time.second, time.microsecond]
    else if time.second ≠ 0 then base ++ [time.second]
    else base
  let zone := match time.offset with
    | none => ""
    | some offset => ", tzinfo=" ++ offsetShown offset
  "datetime.datetime(" ++ ", ".intercalate (parts.map toString) ++ zone ++ ")"

end CallSites.Document
