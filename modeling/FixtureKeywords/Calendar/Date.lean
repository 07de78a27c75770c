/-!
# Dates

Days of the Gregorian calendar, extended to all years. A date and the number of
days since the start of 1970 determine each other; arithmetic with months works
on dates, arithmetic with days on day numbers.

A date is written with a year of four digits, so the supported years are 1 to 9999.
-/

namespace FixtureKeywords

/-- A day of the calendar; months and days count from 1. -/
structure Date where
  year : Int
  month : Nat
  day : Nat
deriving DecidableEq, Repr

namespace Date

def isLeap (year : Int) : Bool :=
  year % 4 == 0 && (year % 100 != 0 || year % 400 == 0)

/-- The number of days of a year. -/
def yearLength (year : Int) : Nat :=
  if isLeap year then 366 else 365

def monthLengths (year : Int) : List Nat :=
  [31, if isLeap year then 29 else 28, 31, 30, 31, 30, 31, 31, 30, 31, 30, 31]

def monthLength (year : Int) (month : Nat) : Nat :=
  (monthLengths year).getD (month - 1) 31

/-- Whether there is such a date in the supported years. -/
def isValid (d : Date) : Bool :=
  1 ≤ d.year && d.year ≤ 9999 && 1 ≤ d.month && d.month ≤ 12 &&
    1 ≤ d.day && d.day ≤ monthLength d.year d.month

/-- The number of days from the start of year 1 to the start of a year. -/
def daysBeforeYear (year : Int) : Int :=
  let y := year - 1
  365 * y + y / 4 - y / 100 + y / 400

/-- The number of days from the start of year 1 to the start of 1970. -/
def epoch : Int := 719162

/-- The place of a date in its year, counted from 1. -/
def dayOfYear (d : Date) : Nat :=
  ((monthLengths d.year).take (d.month - 1)).foldr (· + ·) 0 + d.day

/-- The number of days from the start of 1970 to a date. -/
def toDays (d : Date) : Int :=
  daysBeforeYear d.year + d.dayOfYear - 1 - epoch

/-- Finds the month, counted from 1, and the day in it of the day with index `n`
in a row of months. -/
def locate : List Nat → Nat → Nat × Nat
  | [], n => (1, n + 1)
  | length :: lengths, n =>
      if n < length then (1, n + 1)
      else
        let (month, day) := locate lengths (n - length)
        (month + 1, day)

/-- The day with index `n` in a year. -/
def ofYearIndex (year : Int) (n : Nat) : Date :=
  let (month, day) := locate (monthLengths year) n
  ⟨year, month, day⟩

/-- The date that is a number of days after the start of 1970. Years are counted
by cycles of 400, 100, 4 and 1; the last year of a cycle may be longer. -/
def ofDays (n : Int) : Date :=
  let days := n + epoch
  let cycle := days % 146097
  let century := min (cycle / 36524) 3
  let inCentury := cycle - century * 36524
  let group := inCentury / 1461
  let inGroup := inCentury % 1461
  let single := min (inGroup / 365) 3
  ofYearIndex (400 * (days / 146097) + 100 * century + 4 * group + single + 1)
    (inGroup - single * 365).toNat

/-- The date some months later; a day that the month does not have becomes its last. -/
def addMonths (d : Date) (months : Int) : Date :=
  let total := 12 * d.year + (d.month - 1 : Int) + months
  let year := total / 12
  let month := (total % 12).toNat + 1
  ⟨year, month, min d.day (monthLength year month)⟩

/-- The day of the week, 0 for Monday. -/
def weekday (d : Date) : Nat :=
  ((d.toDays + 3) % 7).toNat

/-- The day number of the Monday of the first week of a year: the week that has
4 January in it. -/
def firstMonday (year : Int) : Int :=
  let fourth : Date := ⟨year, 1, 4⟩
  fourth.toDays - fourth.weekday

/-- The year and the number of the week that a date lies in, by Mondays. -/
def week (d : Date) : Int × Nat :=
  let n := d.toDays
  let year :=
    if n < firstMonday d.year then d.year - 1
    else if firstMonday (d.year + 1) ≤ n then d.year + 1
    else d.year
  (year, ((n - firstMonday year) / 7).toNat + 1)

/-- The first weekday `w` of a month, 0 for Monday, or one of the later ones; the
fifth one is the last one. -/
def nthWeekday (year : Int) (month nth w : Nat) : Date :=
  let first : Date := ⟨year, month, 1⟩
  let day := 1 + (w + 7 - first.weekday) % 7 + 7 * (nth - 1)
  ⟨year, month, if monthLength year month < day then day - 7 else day⟩

end Date

end FixtureKeywords
