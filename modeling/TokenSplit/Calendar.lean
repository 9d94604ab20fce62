/-!
# Dates and moments

Days of the proleptic Gregorian calendar and times of day with an optional distance from
universal time.  Building either checks the fields one by one and names the first that is out of
its range.
-/

namespace TokenSplit

/-- A day. -/
structure Date where
  year : Nat
  month : Nat
  day : Nat
deriving DecidableEq, Repr

/-- A day with a time of day; `offset` is the distance from universal time in minutes. -/
structure Moment where
  date : Date
  hour : Nat
  minute : Nat
  second : Nat
  microsecond : Nat
  offset : Option Int
deriving DecidableEq, Repr

/-- The first field of a date or a time that is out of its range. -/
inductive CalendarFault where
  | year (year : Nat)
  | month
  | day
  | hour
  | minute
  | second
  | offset (minutes : Int)
deriving DecidableEq, Repr

namespace Date

/-- Whether a year has 366 days. -/
def isLeapYear (year : Nat) : Bool :=
  year % 4 == 0 && (year % 100 != 0 || year % 400 == 0)

/-- The length of a month. -/
def daysInMonth (year month : Nat) : Nat :=
  match month with
  | 2 => if isLeapYear year then 29 else 28
  | 4 => 30
  | 6 => 30
  | 9 => 30
  | 11 => 30
  | _ => 31

/-- A day of the years 1 to 9999, checked field by field. -/
def ofFields (year month day : Nat) : Except CalendarFault Date :=
  if year = 0 ∨ 9999 < year then .error (.year year)
  else if month = 0 ∨ 12 < month then .error .month
  else if day = 0 ∨ daysInMonth year month < day then .error .day
  else .ok ⟨year, month, day⟩

/-- The number of days before a date, counted from the first day of year 1. -/
def ordinal (d : Date) : Nat :=
  let before := d.year - 1
  let months := (List.range (d.month - 1)).map fun m => daysInMonth d.year (m + 1)
  before * 365 + before / 4 - before / 100 + before / 400 + months.foldl (· + ·) 0 + d.day

end Date

namespace Moment

/-- Distances from universal time are less than a day. -/
def checkOffset (minutes : Int) : Except CalendarFault Int :=
  if minutes.natAbs < 24 * 60 then .ok minutes else .error (.offset minutes)

/-- A moment, checked field by field, the date first. -/
def ofFields
    (year month day hour minute second microsecond : Nat) (offset : Option Int) :
    Except CalendarFault Moment := do
  let date ← Date.ofFields year month day
  if 23 < hour then throw .hour
  if 59 < minute then throw .minute
  if 59 < second then throw .second
  return ⟨date, hour, minute, second, microsecond, offset⟩

/-- Microseconds of universal time, or of local time where no offset is known. -/
def instant (m : Moment) : Int :=
  let minutes := (m.date.ordinal * 24 + m.hour) * 60 + m.minute
  (((minutes : Int) - m.offset.getD 0) * 60 + m.second) * 1000000 + m.microsecond

/-- Two moments are the same if both are tied to universal time, or neither is, and no time
lies between them. -/
def same (a b : Moment) : Bool :=
  a.offset.isSome == b.offset.isSome && a.instant == b.instant

end Moment

end TokenSplit
