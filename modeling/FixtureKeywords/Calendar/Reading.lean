import FixtureKeywords.Calendar.Date
import FixtureKeywords.Fault

/-!
# Readings and instants

A reading is what a clock on the wall and the calendar beside it show, without a
zone; an instant is a point in time. Both are counted in microseconds: a reading
from the moment when that clock showed the start of 1970, an instant from the
start of 1970 in Coordinated Universal Time. A reading minus the offset of its
zone is an instant.

Readings and instants have to lie in the years 1 to 9999.
-/

namespace FixtureKeywords

/-- What a clock and a calendar show. -/
abbrev Reading := Int

/-- A point in time. -/
abbrev Instant := Int

namespace Reading

def second : Int := 1000000

def minute : Int := 60 * second

def hour : Int := 60 * minute

/-- One day of 24 hours. -/
def dayLength : Int := 24 * hour

def midnight (d : Date) : Reading :=
  d.toDays * dayLength

/-- A time of the day. -/
def ofClock (hours minutes seconds micros : Nat) : Int :=
  hours * hour + minutes * minute + seconds * second + micros

def date (r : Reading) : Date :=
  Date.ofDays (r / dayLength)

def sinceMidnight (r : Reading) : Nat :=
  (r % dayLength).toNat

def hours (r : Reading) : Nat :=
  sinceMidnight r / 3600000000

/-- The minute within the hour. -/
def minutes (r : Reading) : Nat :=
  sinceMidnight r / 60000000 % 60

/-- The second within the minute. -/
def seconds (r : Reading) : Nat :=
  sinceMidnight r / 1000000 % 60

/-- The microsecond within the second. -/
def micros (r : Reading) : Nat :=
  sinceMidnight r % 1000000

def first : Reading :=
  midnight ⟨1, 1, 1⟩

def last : Reading :=
  midnight ⟨10000, 1, 1⟩ - 1

/-- Whether a reading lies in the supported years. -/
def inRange (r : Reading) : Bool :=
  first ≤ r && r ≤ last

/-- A reading or an instant, if it lies in the supported years. -/
def checked (r : Reading) : Except Fault Reading :=
  if inRange r then .ok r else .error .instantOutOfRange

def year (r : Reading) : Int :=
  (date r).year

/-- Moves a reading by months, keeping the time of the day. -/
def addMonths (r : Reading) (months : Int) : Reading :=
  midnight ((date r).addMonths months) + r % dayLength

end Reading

namespace Iso

/-- A date with a year of four digits. -/
def date (d : Date) : String :=
  "-".intercalate [Text.padded 4 d.year.toNat, Text.padded 2 d.month, Text.padded 2 d.day]

/-- A fraction of a second, six digits long, unless there is none. -/
def fraction (micros : Nat) : String :=
  if micros = 0 then "" else "." ++ Text.padded 6 micros

def time (r : Reading) : String :=
  ":".intercalate
    [Text.padded 2 (Reading.hours r), Text.padded 2 (Reading.minutes r),
      Text.padded 2 (Reading.seconds r)] ++ fraction (Reading.micros r)

/-- A reading as a date and a time. -/
def reading (r : Reading) : String :=
  date (Reading.date r) ++ "T" ++ time r

/-- An offset from Universal Time with its sign; seconds are written if there are
some. `separator` stands between the parts. -/
def offset (separator : String) (micros : Int) : String :=
  let total := micros.natAbs / 1000000
  let parts := [total / 3600, total / 60 % 60] ++ (if total % 60 = 0 then [] else [total % 60])
  (if micros < 0 then "-" else "+") ++ separator.intercalate (parts.map (Text.padded 2))

end Iso

end FixtureKeywords
