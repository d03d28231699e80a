import BundleManifest.Decimal.Numeral

namespace BundleManifest

structure CalendarDate where
  year : Nat
  month : Nat
  day : Nat
  deriving DecidableEq, Repr

namespace CalendarDate

def isLeap (year : Nat) : Bool := year%4=0 && (year%100 ≠ 0 || year%400=0)

def daysIn (year month : Nat) : Nat :=
  if month=2 then (if isLeap year then 29 else 28)
  else if month=4 || month=6 || month=9 || month=11 then 30
  else 31

/-- Whether the calendar has the day; it begins with the year 1. -/
def isValid (d : CalendarDate) : Bool :=
  1 ≤ d.year && 1 ≤ d.month && d.month ≤ 12 && 1 ≤ d.day && d.day ≤ daysIn d.year d.month

/-- How many days the first `n` months of a year have. -/
def daysInMonths (year : Nat) : Nat → Nat
  | 0 => 0
  | n+1 => daysInMonths year n+daysIn year (n+1)

/-- Counts the days from the first of the year 1. -/
def number (d : CalendarDate) : Nat :=
  let y := d.year-1
  365*y+y/4-y/100+y/400+daysInMonths d.year (d.month-1)+d.day

def toText (d : CalendarDate) : Text :=
  (Decimal.natText d.year).leftpad 4 '0' ++ '-' :: (Decimal.natText d.month).leftpad 2 '0' ++
    '-' :: (Decimal.natText d.day).leftpad 2 '0'

/-- The call that makes the date. -/
def literal (d : CalendarDate) : Text :=
  "datetime.date(".toList++Text.join ", ".toList ([d.year,d.month,d.day].map Decimal.natText)++[')']

end CalendarDate

structure Timestamp where
  date : CalendarDate
  hour : Nat
  minute : Nat
  second : Nat
  microsecond : Nat
  /-- How many minutes the time is ahead of universal time, if that is told. -/
  offset : Option Int
  deriving DecidableEq, Repr

namespace Timestamp

/-- Whether there is such a time; an offset is less than a day. -/
def isValid (t : Timestamp) : Bool :=
  t.date.isValid && t.hour < 24 && t.minute < 60 && t.second < 60 &&
    t.offset.all fun o => o.natAbs < 1440

/-- The minute of universal time. -/
def minuteNumber (t : Timestamp) : Int :=
  ((t.date.number*24+t.hour)*60+t.minute : Nat)-t.offset.getD 0

/-- Whether two times are one: both moments or both local, and equal as such. -/
def same (a b : Timestamp) : Bool :=
  a.offset.isSome==b.offset.isSome && a.minuteNumber==b.minuteNumber && a.second==b.second &&
    a.microsecond==b.microsecond

private def two (n : Nat) : Text := (Decimal.natText n).leftpad 2 '0'

def offsetText (o : Int) : Text :=
  (if o < 0 then '-' else '+') :: two (o.natAbs/60) ++ ':' :: two (o.natAbs%60)

def toText (t : Timestamp) : Text :=
  t.date.toText ++ ' ' :: two t.hour ++ ':' :: two t.minute ++ ':' :: two t.second ++
    (if t.microsecond=0 then [] else '.' :: (Decimal.natText t.microsecond).leftpad 6 '0') ++
    (t.offset.map offsetText).getD []

/-- The call that makes the zone; a day is taken off what is behind universal time. -/
def zoneLiteral (o : Int) : Text :=
  let seconds (n : Nat) : Text := "seconds=".toList++Decimal.natText n
  if o=0 then "datetime.timezone.utc".toList
  else "datetime.timezone(datetime.timedelta(".toList++
    (if o < 0 then "days=-1, ".toList++seconds (86400-60*o.natAbs) else seconds (60*o.natAbs))++
    "))".toList

/-- The call that makes the time, without seconds that are zero. -/
def literal (t : Timestamp) : Text :=
  let small := if t.microsecond ≠ 0 then [t.second,t.microsecond]
    else if t.second ≠ 0 then [t.second] else []
  let numbers := [t.date.year,t.date.month,t.date.day,t.hour,t.minute]++small
  let zone := (t.offset.map fun o => "tzinfo=".toList++zoneLiteral o).toList
  "datetime.datetime(".toList++Text.join ", ".toList (numbers.map Decimal.natText++zone)++[')']

end Timestamp

end BundleManifest
