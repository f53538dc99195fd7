/-!
# Calendar times

Seconds since the beginning of 1970 of a date of the Gregorian calendar, extended to all years.
-/

namespace FabricGauges

/-- A date and a time of day, in universal time. -/
structure Calendar where
  year : Nat
  month : Nat
  day : Nat
  hour : Nat
  minute : Nat
  second : Nat
deriving DecidableEq, Repr

namespace Calendar

/-- Whether a year has a 29th of February. -/
def isLeap (year : Nat) : Bool := year % 4 == 0 && (year % 100 != 0 || year % 400 == 0)

/-- The number of days of a month; none for a month that does not exist. -/
def daysInMonth (year month : Nat) : Nat :=
  match month with
  | 1 | 3 | 5 | 7 | 8 | 10 | 12 => 31
  | 4 | 6 | 9 | 11 => 30
  | 2 => if isLeap year then 29 else 28
  | _ => 0

/-- Whether the date exists and the time of day is on the clock. -/
def isValid (c : Calendar) : Bool :=
  1 ≤ c.day && c.day ≤ daysInMonth c.year c.month && c.hour < 24 && c.minute < 60 && c.second < 60

/-- The days of the years before a year, from year zero on. -/
def daysBeforeYear (year : Nat) : Nat :=
  365 * year + (year + 3) / 4 - (year + 99) / 100 + (year + 399) / 400

/-- The days of the months before a month. -/
def daysBeforeMonth (year : Nat) : Nat → Nat
  | 0 => 0
  | month + 1 => daysBeforeMonth year month + daysInMonth year month

/-- The seconds since the beginning of 1970. -/
def seconds (c : Calendar) : Int :=
  let days : Int :=
    (daysBeforeYear c.year + daysBeforeMonth c.year c.month + (c.day - 1) : Nat) - (719528 : Int)
  days * 86400 + (c.hour * 3600 + c.minute * 60 + c.second : Nat)

end Calendar

end FabricGauges
