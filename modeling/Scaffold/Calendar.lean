/-!
The calendar: days, and moments of a day with or without an offset from universal time.  Two moments
with offsets are equal when they are the same instant.
-/

namespace Scaffold

structure Date where
  year : Nat
  month : Nat
  day : Nat
deriving DecidableEq, Inhabited

/-- A moment of a day; the offset is one of seconds. -/
structure Moment where
  date : Date
  hour : Nat
  minute : Nat
  second : Nat
  micro : Nat
  offset : Option Int
deriving DecidableEq, Inhabited

inductive CalendarFault where
  | year (n : Nat)
  | month
  | day
  | hour
  | minute
  | second
  | offset (seconds : Int)
deriving DecidableEq

def daySeconds : Nat := 86400

/-- A span of seconds in whole days and what is left of them. -/
def shownSpan (seconds : Int) : String :=
  let days := seconds / daySeconds
  let rest := seconds % daySeconds
  let parts := (if days = 0 then [] else ["days=" ++ toString days])
    ++ (if rest = 0 then [] else ["seconds=" ++ toString rest])
  "datetime.timedelta(" ++ (if parts.isEmpty then "0" else ", ".intercalate parts) ++ ")"

def CalendarFault.message : CalendarFault → String
  | .year n => "year " ++ toString n ++ " is out of range"
  | .month => "month must be in 1..12"
  | .day => "day is out of range for month"
  | .hour => "hour must be in 0..23"
  | .minute => "minute must be in 0..59"
  | .second => "second must be in 0..59"
  | .offset seconds => "offset must be a timedelta strictly between -timedelta(hours=24) and " ++
      "timedelta(hours=24), not " ++ shownSpan seconds ++ "."

def isLeap (year : Nat) : Bool :=
  year % 4 = 0 && (year % 100 ≠ 0 || year % 400 = 0)

def monthLengths (year : Nat) : List Nat :=
  [31, if isLeap year then 29 else 28, 31, 30, 31, 30, 31, 31, 30, 31, 30, 31]

def Date.of (year month day : Nat) : Except CalendarFault Date :=
  if year = 0 ∨ 9999 < year then .error (.year year)
  else
    match month, (monthLengths year)[month - 1]? with
    | _ + 1, some length =>
      if 1 ≤ day ∧ day ≤ length then .ok ⟨year, month, day⟩ else .error .day
    | _, _ => .error .month

/-- The offset of some seconds, which is less than a day. -/
def checkOffset (seconds : Int) : Except CalendarFault Int :=
  if seconds.natAbs < daySeconds then .ok seconds else .error (.offset seconds)

def Date.at (date : Date) (hour minute second micro : Nat) (offset : Option Int) :
    Except CalendarFault Moment :=
  if 23 < hour then .error .hour
  else if 59 < minute then .error .minute
  else if 59 < second then .error .second
  else .ok ⟨date, hour, minute, second, micro, offset⟩

/-- The number of days up to the end of a day. -/
def Date.ordinal (d : Date) : Nat :=
  let before := d.year - 1
  365 * before + before / 4 - before / 100 + before / 400
    + ((monthLengths d.year).take (d.month - 1)).foldl (· + ·) 0 + d.day

/-- The microseconds up to a moment, counted from universal time where it has an offset. -/
def Moment.instant (m : Moment) : Int :=
  let seconds : Int := m.date.ordinal * daySeconds + m.hour * 3600 + m.minute * 60 + m.second
  (seconds - m.offset.getD 0) * 1000000 + m.micro

/-- Equality of moments: those with an offset never equal those without. -/
def Moment.equals (m n : Moment) : Bool :=
  m.offset.isSome == n.offset.isSome && m.instant == n.instant

def Date.shown (d : Date) : String :=
  "datetime.date(" ++ ", ".intercalate ([d.year, d.month, d.day].map toString) ++ ")"

def shownOffset (seconds : Int) : String :=
  if seconds = 0 then "datetime.timezone.utc"
  else "datetime.timezone(" ++ shownSpan seconds ++ ")"

/-- A moment as messages show it: seconds and microseconds are left out if they are zero. -/
def Moment.shown (m : Moment) : String :=
  let fine := if m.micro ≠ 0 then [m.second, m.micro] else if m.second ≠ 0 then [m.second] else []
  let numbers := [m.date.year, m.date.month, m.date.day, m.hour, m.minute] ++ fine
  let offset := (m.offset.map fun s => ["tzinfo=" ++ shownOffset s]).getD []
  "datetime.datetime(" ++ ", ".intercalate (numbers.map toString ++ offset) ++ ")"

end Scaffold
