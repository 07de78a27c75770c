import FixtureKeywords.Calendar.Reading
import FixtureKeywords.Text.Significant

/-!
# Offsets in time

Two kinds of offsets are collected apart. Years, months, weeks and days move the
calendar; hours and minutes are time that passes. Months are carried into years
toward zero after every addition, so fewer than twelve months are left over.

A clock offset stays within a billion days less one on either side.
-/

namespace FixtureKeywords

inductive CalendarUnit where
  | year
  | month
  | week
  | day
deriving DecidableEq, Repr

/-- A unit of passing time. -/
inductive ClockUnit where
  | hour
  | minute
deriving DecidableEq, Repr

/-- A unit of either kind. -/
inductive TemporalUnit where
  | calendar (unit : CalendarUnit)
  | clock (unit : ClockUnit)
deriving DecidableEq, Repr

namespace TemporalUnit

/-- The letter that a unit is written with; case matters. -/
def letter : TemporalUnit → Char
  | calendar .year => 'y'
  | calendar .month => 'M'
  | calendar .week => 'w'
  | calendar .day => 'd'
  | clock .hour => 'h'
  | clock .minute => 'm'

def all : List TemporalUnit :=
  [calendar .year, calendar .month, calendar .week, calendar .day, clock .hour, clock .minute]

def ofLetter? (c : Char) : Option TemporalUnit :=
  all.find? (·.letter = c)

theorem ofLetter?_letter (u : TemporalUnit) : ofLetter? u.letter = some u := by
  rcases u with u | u <;> cases u <;> decide

end TemporalUnit

/-- A collected calendar offset. -/
structure CalendarOffset where
  years : Int
  months : Int
  days : Int
deriving DecidableEq, Repr

namespace CalendarOffset

def zero : CalendarOffset := ⟨0, 0, 0⟩

/-- Carries whole years out of the months, toward zero. -/
def carry (o : CalendarOffset) : CalendarOffset :=
  ⟨o.years + o.months.tdiv 12, o.months.tmod 12, o.days⟩

def ofUnits (unit : CalendarUnit) (amount : Int) : CalendarOffset :=
  match unit with
  | .year => ⟨amount, 0, 0⟩
  | .month => carry ⟨0, amount, 0⟩
  | .week => ⟨0, 0, 7 * amount⟩
  | .day => ⟨0, 0, amount⟩

/-- The sum of two offsets. -/
def plus (a b : CalendarOffset) : CalendarOffset :=
  carry ⟨a.years + b.years, a.months + b.months, a.days + b.days⟩

/-- Adds some units. Months have to be within the range of a double-precision number. -/
def add? (unit : CalendarUnit) (amount : Int) (o : CalendarOffset) : Option CalendarOffset :=
  if unit = .month ∧ 11 < amount.natAbs ∧ !Text.fitsDouble amount then none
  else some (o.plus (ofUnits unit amount))

/-- The offset in months, as far as years and months go. -/
def totalMonths (o : CalendarOffset) : Int :=
  12 * o.years + o.months

/-- Moves a reading: months first, keeping the day where the month has it, then
days. -/
def move (o : CalendarOffset) (r : Reading) : Except Fault Reading := do
  let r ← Reading.checked (Reading.addMonths r o.totalMonths)
  Reading.checked (r + o.days * Reading.dayLength)

def parts (o : CalendarOffset) : List (String × Int) :=
  [("years", o.years), ("months", o.months), ("days", o.days)].filter (·.2 ≠ 0)

/-- An offset as it is written, unless a part is too large to be written. -/
def text? (o : CalendarOffset) : Option String := do
  let parts ← o.parts.mapM fun (name, n) => do some (name ++ "=" ++ (← Text.signedSixDigits? n))
  some ("relativedelta(" ++ ", ".intercalate parts ++ ")")

theorem carry_months_lt (o : CalendarOffset) : (carry o).months.natAbs < 12 := by
  simp only [carry, Int.natAbs_tmod]
  exact Nat.mod_lt _ (by decide)

theorem totalMonths_carry (o : CalendarOffset) : (carry o).totalMonths = o.totalMonths := by
  simp only [carry, totalMonths]
  have := Int.mul_tdiv_add_tmod o.months 12
  omega

end CalendarOffset

/-- A collected clock offset, in minutes. -/
structure ClockOffset where
  minutes : Int
deriving DecidableEq, Repr

namespace ClockOffset

def zero : ClockOffset := ⟨0⟩

/-- The offset in microseconds. -/
def micros (o : ClockOffset) : Int :=
  o.minutes * Reading.minute

/-- Whether an offset is small enough: less than a billion days. -/
def inRange (o : ClockOffset) : Bool :=
  -(999999999 * 1440) ≤ o.minutes && o.minutes < 1000000000 * 1440

def ofUnits (unit : ClockUnit) (amount : Int) : ClockOffset :=
  match unit with
  | .hour => ⟨60 * amount⟩
  | .minute => ⟨amount⟩

/-- Adds some units; they and the sum have to be small enough. -/
def add? (unit : ClockUnit) (amount : Int) (o : ClockOffset) : Option ClockOffset :=
  let step := ofUnits unit amount
  let sum : ClockOffset := ⟨o.minutes + step.minutes⟩
  if step.inRange && sum.inRange then some sum else none

/-- An offset as days and the time of a day, the days rounded down. -/
def text (o : ClockOffset) : String :=
  let days := o.minutes / 1440
  let rest := (o.minutes % 1440).toNat
  let plural := if days.natAbs = 1 then "" else "s"
  let front := if days = 0 then "" else s!"{days} day{plural}, "
  front ++ toString (rest / 60) ++ ":" ++ Text.padded 2 (rest % 60) ++ ":00"

end ClockOffset

end FixtureKeywords
