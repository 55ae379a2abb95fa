/-!
The proleptic Gregorian calendar. Days are counted from 1970-01-01, which is day 0; every integer is
a day, whatever its year.
-/

namespace DevEnv

set_option autoImplicit false

-- Sums start from the zero of core, whatever other instances are in scope.
attribute [local instance (2000)] Zero.ofOfNat0

structure Date where
  year : Int
  month : Nat
  day : Nat
deriving DecidableEq, Repr

namespace Calendar

def isLeap (year : Int) : Bool :=
  year % 4 == 0 && (year % 100 != 0 || year % 400 == 0)

def monthLengths (year : Int) : List Nat :=
  [31, if isLeap year then 29 else 28, 31, 30, 31, 30, 31, 31, 30, 31, 30, 31]

def monthLength (year : Int) (month : Nat) : Nat :=
  ((monthLengths year)[month - 1]?).getD 0

/-- The first day of a year. -/
def firstDay (year : Int) : Int :=
  let y := year - 1
  365 * y + y / 4 - y / 100 + y / 400 - 719162

/-- Days of a year that lie before a month. -/
def daysBefore (year : Int) (month : Nat) : Nat :=
  ((monthLengths year).take (month - 1)).sum

/-- The year in which a day lies: the mean length of a year gives it up to a neighbour. -/
def yearOf (n : Int) : Int :=
  let y := (n + 719162) * 400 / 146097 + 1
  if n < firstDay y then y - 1
  else if firstDay (y + 1) ≤ n then y + 1
  else y

/-- The month and day that come `n` days after the first day of a month, among months of these
lengths from `month` on. -/
def monthDay (month : Nat) (n : Nat) : List Nat → Nat × Nat
  | [] => (month, n + 1)
  | length :: rest => if n < length then (month, n + 1) else monthDay (month + 1) (n - length) rest

end Calendar

namespace Date

open Calendar

/-- Dates that are on the calendar. -/
def isValid (d : Date) : Bool :=
  1 ≤ d.month && d.month ≤ 12 && 1 ≤ d.day && d.day ≤ monthLength d.year d.month

/-- The count of the day. -/
def toDays (d : Date) : Int :=
  firstDay d.year + daysBefore d.year d.month + (d.day - 1 : Int)

/-- The date of a day. -/
def ofDays (n : Int) : Date :=
  let year := yearOf n
  let (month, day) := monthDay 1 (n - firstDay year).toNat (monthLengths year)
  ⟨year, month, day⟩

end Date

namespace Calendar

/-- The weekday of a day, Monday being 0. -/
def weekday (n : Int) : Int := (n + 3) % 7

/-- Whether the year has a week 53: it begins on a Thursday, or on a Wednesday if it is a leap
year. -/
def hasLongYear (year : Int) : Bool :=
  let first := weekday (firstDay year)
  first == 3 || (first == 2 && isLeap year)

/-- The Monday of the week that holds the fourth of January. -/
def firstMonday (year : Int) : Int :=
  let fourth := firstDay year + 3
  fourth - weekday fourth

/-- The day of a week date, if the year has that week and the week that day. -/
def weekDay? (year : Int) (week day : Nat) : Option Int :=
  if 1 ≤ week ∧ (week ≤ 52 ∨ (week = 53 ∧ hasLongYear year)) ∧ 1 ≤ day ∧ day ≤ 7 then
    some (firstMonday year + 7 * (week - 1 : Int) + (day - 1 : Int))
  else none

/-- Years that timestamps can name. -/
def isYear (year : Int) : Bool := 1 ≤ year && year ≤ 9999

end Calendar

end DevEnv
