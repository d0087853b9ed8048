/-
Calendar dates and moments, as a document may hold them.

A date is a day of the proleptic Gregorian calendar in the years 1 to 9999. A moment adds a time of day in microseconds
and may say how many minutes its clock is ahead of universal time. Both are built through `date?` and `moment?`, which
name the first part that is out of range.
-/
namespace ApiTypes

structure Date where
  year : Nat
  month : Nat
  day : Nat
  deriving DecidableEq, Repr

structure Moment where
  date : Date
  hour : Nat
  minute : Nat
  second : Nat
  microsecond : Nat
  /-- minutes ahead of universal time, where the text says so -/
  offset : Option Int
  deriving DecidableEq, Repr

/-- the part of a date or moment that is out of range -/
inductive CalendarFault where
  | year (year : Nat)
  | month
  | day
  | hour
  | minute
  | second
  /-- an offset of a whole day or more, in minutes -/
  | offset (minutes : Int)
  deriving DecidableEq, Repr

namespace Calendar

def isLeap (year : Nat) : Bool := year % 4 == 0 && (year % 100 != 0 || year % 400 == 0)

def daysIn (year month : Nat) : Nat :=
  if month = 2 then (if isLeap year then 29 else 28)
  else if month = 4 ∨ month = 6 ∨ month = 9 ∨ month = 11 then 30
  else 31

/-- days from the first day of year 1 -/
def dayNumber (date : Date) : Nat :=
  let before := date.year - 1
  365 * before + before / 4 - before / 100 + before / 400 +
    (List.range (date.month - 1)).foldl (fun days m => days + daysIn date.year (m + 1)) 0 + date.day

/-- microseconds from the start of year 1, by the clock of the moment itself -/
def clock (m : Moment) : Int :=
  (((Int.ofNat (dayNumber m.date) * 24 + m.hour) * 60 + m.minute) * 60 + m.second) * 1000000 + m.microsecond

def date? (year month day : Nat) : Except CalendarFault Date :=
  if year < 1 ∨ 9999 < year then .error (.year year)
  else if month < 1 ∨ 12 < month then .error .month
  else if day < 1 ∨ daysIn year month < day then .error .day
  else .ok ⟨year, month, day⟩

def moment? (year month day hour minute second microsecond : Nat) (offset : Option Int) :
    Except CalendarFault Moment := do
  match offset with
  | some minutes => if minutes.natAbs < 24 * 60 then pure () else throw (.offset minutes)
  | none => pure ()
  let date ← date? year month day
  if 24 ≤ hour then throw .hour
  if 60 ≤ minute then throw .minute
  if 60 ≤ second then throw .second
  return ⟨date, hour, minute, second, microsecond, offset⟩

/-! ## Texts -/

/-- a natural in at least `width` digits -/
def padded (width n : Nat) : String :=
  let digits := Nat.repr n
  String.ofList (List.replicate (width - digits.length) '0') ++ digits

def dateText (d : Date) : String :=
  padded 4 d.year ++ "-" ++ padded 2 d.month ++ "-" ++ padded 2 d.day

def timeText (m : Moment) : String :=
  padded 2 m.hour ++ ":" ++ padded 2 m.minute ++ ":" ++ padded 2 m.second ++
    (if m.microsecond = 0 then "" else "." ++ padded 6 m.microsecond)

/-- a sign, hours and minutes -/
def offsetText (minutes : Int) : String :=
  (if minutes < 0 then "-" else "+") ++ padded 2 (minutes.natAbs / 60) ++ ":" ++ padded 2 (minutes.natAbs % 60)

/-- the date and the time with `between` in the middle, and the offset if there is one -/
def momentText (between : String) (m : Moment) : String :=
  dateText m.date ++ between ++ timeText m ++ (m.offset.map offsetText).getD ""

/-- the form of records: universal time is marked `Z`, and the sign of an offset is that of its whole hours -/
def recordText (m : Moment) : String :=
  dateText m.date ++ "T" ++ timeText m ++
    match m.offset with
    | none => ""
    | some 0 => "Z"
    | some minutes =>
      let hours := Int.tdiv minutes 60
      (if hours < 0 then "-" else "+") ++ padded 2 hours.natAbs ++ ":" ++ padded 2 (minutes.natAbs % 60)

/-- a span of minutes as a literal: whole days, then seconds of the day that is left, which are never negative -/
def spanLiteral (minutes : Int) : String :=
  let seconds := minutes * 60
  let days := Int.fdiv seconds 86400
  let rest := Int.fmod seconds 86400
  let parts := (if days = 0 then [] else ["days=" ++ toString days]) ++
    (if rest = 0 then [] else ["seconds=" ++ toString rest])
  "datetime.timedelta(" ++ (if parts.isEmpty then "0" else ", ".intercalate parts) ++ ")"

def dateLiteral (d : Date) : String :=
  "datetime.date(" ++ ", ".intercalate [toString d.year, toString d.month, toString d.day] ++ ")"

def offsetLiteral (minutes : Int) : String :=
  if minutes = 0 then "datetime.timezone.utc" else "datetime.timezone(" ++ spanLiteral minutes ++ ")"

/-- seconds are left out when they and the microseconds are zero -/
def momentLiteral (m : Moment) : String :=
  let finer := if m.microsecond ≠ 0 then [m.second, m.microsecond] else if m.second ≠ 0 then [m.second] else []
  let numbers := [m.date.year, m.date.month, m.date.day, m.hour, m.minute] ++ finer
  let zone := match m.offset with
    | none => []
    | some minutes => ["tzinfo=" ++ offsetLiteral minutes]
  "datetime.datetime(" ++ ", ".intercalate (numbers.map toString ++ zone) ++ ")"

end Calendar

namespace CalendarFault

def message : CalendarFault → String
  | year y => "year " ++ toString y ++ " is out of range"
  | month => "month must be in 1..12"
  | day => "day is out of range for month"
  | hour => "hour must be in 0..23"
  | minute => "minute must be in 0..59"
  | second => "second must be in 0..59"
  | offset minutes =>
    "offset must be a timedelta strictly between -timedelta(hours=24) and timedelta(hours=24), not " ++
      Calendar.spanLiteral minutes ++ "."

end CalendarFault

end ApiTypes
