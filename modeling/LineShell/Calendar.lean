/-!
# Dates and times

Days of the Gregorian calendar and times of day, with an optional offset from universal time. Two
times that have an offset are the same when they are the same instant (`Stamp.instant?`).
-/

namespace LineShell

/-- A day. -/
structure Date where
  year : Nat
  month : Nat
  day : Nat
deriving DecidableEq, Repr

/-- Why numbers are no date or time. -/
inductive CalendarFault where
  | year (n : Nat)
  | month
  | day
  | hour
  | minute
  | second
  /-- The offset from universal time, in minutes, is a day or more. -/
  | offset (minutes : Int)
deriving DecidableEq, Repr

/-- A span of whole minutes, as days and seconds. -/
def spanText (minutes : Int) : String :=
  let days := minutes.fdiv 1440
  let seconds := minutes.fmod 1440 * 60
  let parts := (if days = 0 then [] else [s!"days={days}"]) ++
    (if seconds = 0 then [] else [s!"seconds={seconds}"])
  "datetime.timedelta(" ++ (if parts.isEmpty then "0" else ", ".intercalate parts) ++ ")"

namespace CalendarFault

/-- The fault in words. -/
def message : CalendarFault → String
  | year n => s!"year {n} is out of range"
  | month => "month must be in 1..12"
  | day => "day is out of range for month"
  | hour => "hour must be in 0..23"
  | minute => "minute must be in 0..59"
  | second => "second must be in 0..59"
  | offset minutes =>
    "offset must be a timedelta strictly between -timedelta(hours=24) and timedelta(hours=24), " ++
      s!"not {spanText minutes}."

end CalendarFault

namespace Date

/-- Whether a year has a leap day. -/
def isLeap (year : Nat) : Bool := year % 4 == 0 && (year % 100 != 0 || year % 400 == 0)

/-- How many days a month has. -/
def daysIn (year month : Nat) : Nat :=
  if month = 2 then (if isLeap year then 29 else 28)
  else if month = 4 || month = 6 || month = 9 || month = 11 then 30
  else 31

/-- The day with these numbers. -/
def of? (year month day : Nat) : Except CalendarFault Date :=
  if year < 1 || 9999 < year then .error (.year year)
  else if month < 1 || 12 < month then .error .month
  else if day < 1 || daysIn year month < day then .error .day
  else .ok ⟨year, month, day⟩

/-- How many days lie before a day, from the beginning of the first year. -/
def ordinal (d : Date) : Nat :=
  let y := d.year - 1
  let before := (List.range (d.month - 1)).foldl (fun n m => n + daysIn d.year (m + 1)) 0
  y * 365 + y / 4 - y / 100 + y / 400 + before + d.day

/-- A number with leading zeros. -/
def padded (width n : Nat) : String :=
  let ds := Nat.toDigits 10 n
  String.ofList (List.replicate (width - ds.length) '0' ++ ds)

/-- The day as year, month and day. -/
def text (d : Date) : String := s!"{padded 4 d.year}-{padded 2 d.month}-{padded 2 d.day}"

end Date

/-- A time of a day. The offset from universal time is in minutes. -/
structure Stamp where
  date : Date
  hour : Nat
  minute : Nat
  second : Nat
  micro : Nat
  offset : Option Int
deriving DecidableEq, Repr

namespace Stamp

/-- The time with these numbers. -/
def of? (date : Nat × Nat × Nat) (hour minute second micro : Nat) (offset : Option Int) :
    Except CalendarFault Stamp :=
  match offset.filter fun o => 1440 ≤ o.natAbs with
  | some o => .error (.offset o)
  | none =>
    match Date.of? date.1 date.2.1 date.2.2 with
    | .error e => .error e
    | .ok d =>
      if 23 < hour then .error .hour
      else if 59 < minute then .error .minute
      else if 59 < second then .error .second
      else .ok ⟨d, hour, minute, second, micro, offset⟩

/-- The microseconds since the beginning of the first year, for a time with an offset. -/
def instant? (t : Stamp) : Option Int :=
  t.offset.map fun o =>
    ((((t.date.ordinal : Int) * 24 + t.hour) * 60 + t.minute - o) * 60 + t.second) * 1000000 +
      t.micro

/-- Whether two times are the same: the same instant, or the same numbers without an offset. -/
def same (t u : Stamp) : Bool :=
  match t.instant?, u.instant? with
  | some a, some b => a == b
  | none, none => t == u
  | _, _ => false

/-- The offset as hours and minutes. -/
def offsetText (o : Int) : String :=
  (if o < 0 then "-" else "+") ++ Date.padded 2 (o.natAbs / 60) ++ ":" ++
    Date.padded 2 (o.natAbs % 60)

/-- The time as date, time of day and offset. -/
def text (t : Stamp) : String :=
  s!"{t.date.text} {Date.padded 2 t.hour}:{Date.padded 2 t.minute}:{Date.padded 2 t.second}" ++
    (if t.micro = 0 then "" else "." ++ Date.padded 6 t.micro) ++
    (t.offset.map offsetText).getD ""

end Stamp

end LineShell
