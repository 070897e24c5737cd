/-!
# Dates, times of day and moments of the Gregorian calendar

Years run from 1 to 9999. A moment may carry an offset from universal time, in minutes; two moments
with offsets are equal when they are the same instant.
-/

namespace SchemaMigration

/-- A day. -/
structure Date where
  year : Nat
  month : Nat
  day : Nat
  deriving DecidableEq

/-- A time of day. -/
structure Clock where
  hour : Nat
  minute : Nat
  second : Nat
  microsecond : Nat
  deriving DecidableEq

/-- A day and a time of day, with the offset from universal time in minutes if it is known. -/
structure Moment where
  date : Date
  clock : Clock
  offset : Option Int
  deriving DecidableEq

namespace Date

/-- Has the year a 29th of February? -/
def isLeapYear (year : Nat) : Bool :=
  year % 4 = 0 && (year % 100 ≠ 0 || year % 400 = 0)

/-- How many days a month has. -/
def daysInMonth (year month : Nat) : Nat :=
  if month = 2 then (if isLeapYear year then 29 else 28)
  else if month = 4 ∨ month = 6 ∨ month = 9 ∨ month = 11 then 30
  else 31

/-- Why a year, a month and a day make no date. -/
inductive Fault where
  | year (year : Nat)
  | month
  | day

/-- The date of a year, a month and a day; the year is checked first. -/
def of (year month day : Nat) : Except Fault Date :=
  if year < 1 ∨ 9999 < year then .error (.year year)
  else if month < 1 ∨ 12 < month then .error .month
  else if day < 1 ∨ daysInMonth year month < day then .error .day
  else .ok ⟨year, month, day⟩

/-- The days from the first day of year 1 to the date. -/
def ordinal (date : Date) : Nat :=
  let past := date.year - 1
  let months := (List.range (date.month - 1)).map fun m => daysInMonth date.year (m + 1)
  past * 365 + past / 4 - past / 100 + past / 400 + months.foldr (· + ·) 0 +
    (date.day - 1)

end Date

namespace Clock

/-- Why an hour, a minute and a second make no time of day. -/
inductive Fault where
  | hour
  | minute
  | second

/-- The time of day of an hour, a minute, a second and a part of it. -/
def of (hour minute second microsecond : Nat) : Except Fault Clock :=
  if 23 < hour then .error .hour
  else if 59 < minute then .error .minute
  else if 59 < second then .error .second
  else .ok ⟨hour, minute, second, microsecond⟩

end Clock

namespace Moment

/-- The microseconds from the start of year 1 to the moment, in universal time where the offset is
known. -/
def instant (moment : Moment) : Int :=
  let minutes : Int := (moment.date.ordinal * 24 + moment.clock.hour) * 60 + moment.clock.minute
  ((minutes - moment.offset.getD 0) * 60 + moment.clock.second) * 1000000 +
    moment.clock.microsecond

/-- Are two moments equal? One with an offset never equals one without. -/
def equals (a b : Moment) : Bool :=
  a.offset.isSome = b.offset.isSome && a.instant = b.instant

end Moment

/-- A number with leading zeros up to the given width. -/
def padded (width n : Nat) : String :=
  let digits := toString n
  String.ofList (List.replicate (width - digits.length) '0') ++ digits

/-- A date as year, month and day. -/
def Date.render (date : Date) : String :=
  padded 4 date.year ++ "-" ++ padded 2 date.month ++ "-" ++ padded 2 date.day

/-- A time of day; the part of a second is written only if there is one. -/
def Clock.render (clock : Clock) : String :=
  padded 2 clock.hour ++ ":" ++ padded 2 clock.minute ++ ":" ++ padded 2 clock.second ++
    if clock.microsecond = 0 then "" else "." ++ padded 6 clock.microsecond

/-- A moment: date, time of day and offset. -/
def Moment.render (moment : Moment) : String :=
  let offset := match moment.offset with
    | none => ""
    | some minutes =>
      (if minutes < 0 then "-" else "+") ++ padded 2 (minutes.natAbs / 60) ++ ":" ++
        padded 2 (minutes.natAbs % 60)
  moment.date.render ++ " " ++ moment.clock.render ++ offset

end SchemaMigration
