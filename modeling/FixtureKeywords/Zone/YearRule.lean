import FixtureKeywords.Calendar.Reading

/-!
# Yearly rules

A rule gives the offset of standard time and, if there is daylight time, its
offset and the two turns of the year at which it starts and ends. The start is
read from a clock on standard time, the end from one on daylight time. South of
the equator daylight time ends before it starts.

A clock that goes by a rule counts days from 1970 on. The turns of an earlier year are
to it as many days behind the start of 1970 as they are behind the start of the year.

Rules are written in the POSIX notation, `EST5EDT,M3.2.0,M11.1.0`, where offsets
count westward.
-/

namespace FixtureKeywords

/-- The time that is kept: its offset from Universal Time, in microseconds east,
and its abbreviation. -/
structure Observance where
  offset : Int
  name : String
deriving DecidableEq, Repr

/-- A day of the year, the same every year by one of three ways of counting. -/
inductive Anniversary where
  /-- A weekday of a month, 0 for Sunday; the fifth one is the last one. -/
  | weekday (month nth day : Nat)
  /-- A day from 1 to 365 that passes over 29 February. -/
  | common (n : Nat)
  /-- A day from 0 to 365. -/
  | index (n : Nat)
deriving DecidableEq, Repr

/-- A moment of the year on a clock: a time, counted from midnight of a day. -/
structure Turn where
  day : Anniversary
  time : Int
deriving DecidableEq, Repr

/-- Daylight time and its turns. -/
structure Daylight where
  observance : Observance
  starts : Turn
  ends : Turn
deriving DecidableEq, Repr

/-- What is observed every year. -/
structure YearRule where
  standard : Observance
  daylight : Option Daylight
deriving DecidableEq, Repr

namespace Anniversary

/-- The day number of the day in a year. -/
def inYear (year : Int) : Anniversary → Int
  | weekday month nth day => (Date.nthWeekday year month nth ((day + 6) % 7)).toDays
  | common n =>
      (⟨year, 1, 1⟩ : Date).toDays + n - (if Date.isLeap year ∧ 60 ≤ n then 0 else 1)
  | index n => (⟨year, 1, 1⟩ : Date).toDays + n

end Anniversary

namespace Turn

def inYear (year : Int) (t : Turn) : Reading :=
  t.day.inYear year * Reading.dayLength + t.time

end Turn

namespace YearRule

def universal : YearRule := ⟨⟨0, "UTC"⟩, none⟩

/-- The same time all year; the offset is given in seconds. -/
def steady (seconds : Int) (name : String) : YearRule :=
  ⟨⟨seconds * Reading.second, name⟩, none⟩

/-- Standard and daylight time, with offsets and times of the day in seconds. -/
def seasonal (standard daylight : Int × String) (starts ends : Anniversary × Int) : YearRule :=
  ⟨⟨standard.1 * Reading.second, standard.2⟩,
    some ⟨⟨daylight.1 * Reading.second, daylight.2⟩,
      ⟨starts.1, starts.2 * Reading.second⟩, ⟨ends.1, ends.2 * Reading.second⟩⟩⟩

def turns (rule : YearRule) (d : Daylight) (year : Int) : Instant × Instant :=
  (d.starts.inYear year - rule.standard.offset, d.ends.inYear year - d.observance.offset)

def countedTurns (rule : YearRule) (d : Daylight) (year : Int) : Instant × Instant :=
  let (starts, ends) := rule.turns d year
  let uncounted := if year < 1970 then Reading.midnight ⟨year, 1, 1⟩ else 0
  (starts - uncounted, ends - uncounted)

/-- Whether daylight time is kept at an instant, by the turns of the year that the
instant lies in. -/
def inDaylight (rule : YearRule) (t : Instant) : Bool :=
  match rule.daylight with
  | none => false
  | some d =>
      let (starts, ends) := rule.countedTurns d (Reading.year t)
      if starts ≤ ends then starts ≤ t && t < ends else !(ends ≤ t && t < starts)

def observanceAt (rule : YearRule) (t : Instant) : Observance :=
  match rule.daylight with
  | some d => if rule.inDaylight t then d.observance else rule.standard
  | none => rule.standard

/-- Whether a character may stand in an abbreviation between angle brackets. -/
def isNameChar (c : Char) : Bool :=
  c.isAlphanum || c == '+' || c == '-'

/-- Takes an abbreviation: at least three letters, or signs and digits as well
between angle brackets. -/
def takeName? (t : Text) : Option (String × Text) :=
  let (name, rest) := match t with
    | '<' :: t => (t.takeWhile isNameChar, Text.dropChar? '>' (t.dropWhile isNameChar))
    | t => (t.takeWhile Char.isAlpha, some (t.dropWhile Char.isAlpha))
  if name.length < 3 then none else rest.map (String.ofList name, ·)

/-- Takes up to `count` numbers with colons between them. -/
def takeParts (count : Nat) (t : Text) : List Nat × Text :=
  let digits := t.takeWhile Char.isDigit
  let rest := t.dropWhile Char.isDigit
  match count, digits, rest with
  | _, [], _ => ([], t)
  | count + 1, _, ':' :: next =>
      let (others, left) := takeParts count next
      if others.isEmpty then ([Text.value digits], rest) else (Text.value digits :: others, left)
  | _, _, _ => ([Text.value digits], rest)

/-- Takes a signed time of hours, minutes and seconds. -/
def takeTime? (t : Text) : Option (Int × Text) :=
  let (sign, t) := match t with
    | '-' :: t => (-1, t)
    | '+' :: t => (1, t)
    | t => ((1 : Int), t)
  match takeParts 2 t with
  | ([], _) => none
  | (parts, rest) =>
      some (sign * Reading.ofClock (parts.getD 0 0) (parts.getD 1 0) (parts.getD 2 0) 0, rest)

def takeDay? (t : Text) : Option (Anniversary × Text) :=
  match t with
  | 'M' :: t => do
      let month := t.takeWhile Char.isDigit
      let t ← Text.dropChar? '.' (t.dropWhile Char.isDigit)
      let nth := t.takeWhile Char.isDigit
      let t ← Text.dropChar? '.' (t.dropWhile Char.isDigit)
      let day := t.takeWhile Char.isDigit
      let (month, nth, day, rest) :=
        (Text.value month, Text.value nth, Text.value day, t.dropWhile Char.isDigit)
      if 1 ≤ month ∧ month ≤ 12 ∧ 1 ≤ nth ∧ nth ≤ 5 ∧ day ≤ 6 then
        some (.weekday month nth day, rest)
      else none
  | 'J' :: t =>
      let digits := t.takeWhile Char.isDigit
      let n := Text.value digits
      if 1 ≤ n ∧ n ≤ 365 then some (.common n, t.dropWhile Char.isDigit) else none
  | t =>
      let digits := t.takeWhile Char.isDigit
      let n := Text.value digits
      if !digits.isEmpty ∧ n ≤ 365 then some (.index n, t.dropWhile Char.isDigit) else none

/-- Takes a turn: a comma, a day, and perhaps a time, which is otherwise two o'clock. -/
def takeTurn? (t : Text) : Option (Turn × Text) := do
  let (day, rest) ← takeDay? (← Text.dropChar? ',' t)
  match rest with
  | '/' :: rest => do
      let (time, rest) ← takeTime? rest
      some (⟨day, time⟩, rest)
  | _ => some (⟨day, 2 * Reading.hour⟩, rest)

/-- The turns of a rule that names none: second Sunday of March, first Sunday of
November. -/
def usualTurns : Turn × Turn :=
  (⟨.weekday 3 2 0, 2 * Reading.hour⟩, ⟨.weekday 11 1 0, 2 * Reading.hour⟩)

/-- Reads a rule in the POSIX notation. Daylight time without an offset is one hour
ahead. -/
def read? (t : Text) : Option YearRule := do
  let (name, t) ← takeName? t
  let (west, t) ← takeTime? t
  let standard : Observance := ⟨-west, name⟩
  if t.isEmpty then some ⟨standard, none⟩ else
  let (name, t) ← takeName? t
  let (west, t) := (takeTime? t).getD (west - Reading.hour, t)
  let observance : Observance := ⟨-west, name⟩
  if t.isEmpty then some ⟨standard, some ⟨observance, usualTurns.1, usualTurns.2⟩⟩ else
  let (starts, t) ← takeTurn? t
  let (ends, t) ← takeTurn? t
  if t.isEmpty then some ⟨standard, some ⟨observance, starts, ends⟩⟩ else none

/-- The rule that a text writes; one that cannot be read means Universal Time. -/
def ofText (t : Text) : YearRule :=
  (read? t).getD universal

end YearRule

end FixtureKeywords
