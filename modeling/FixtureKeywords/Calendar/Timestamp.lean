import FixtureKeywords.Calendar.Reading

/-!
# Timestamps

Reading of timestamps in the ISO 8601 notation. The date is a calendar date, a
week date or the day of a year, each with dashes or without; the time of the day
has hours, minutes and seconds, each part of two digits, with colons or without,
and perhaps a fraction of the seconds. An offset from Universal Time may follow
any part of the time. One character, whichever, separates date and time.

Hour 24 is the end of the day and stands for midnight of the next one.
-/

namespace FixtureKeywords

/-- A timestamp that was read: the reading, and the offset if one was written. -/
structure Timestamp where
  reading : Reading
  offset : Option Int
deriving DecidableEq, Repr

namespace Timestamp

/-- Takes a number of exactly `count` digits from the front of a text. -/
def digits? (count : Nat) (t : Text) : Option (Nat × Text) :=
  let front := t.take count
  if front.length = count ∧ front.all Char.isDigit then some (Text.value front, t.drop count)
  else none

/-- Reads a calendar date: year, year and month, or all three. Without dashes the
month needs a day. The values are not checked. -/
def calendarDate? (t : Text) : Option (Date × Text) := do
  let (year, rest) ← digits? 4 t
  match rest with
  | [] => some (⟨year, 1, 1⟩, [])
  | '-' :: rest => do
      let (month, rest) ← digits? 2 rest
      match rest with
      | [] => some (⟨year, month, 1⟩, [])
      | '-' :: rest => do
          let (day, rest) ← digits? 2 rest
          some (⟨year, month, day⟩, rest)
      | _ => none
  | rest => do
      let (month, rest) ← digits? 2 rest
      let (day, rest) ← digits? 2 rest
      some (⟨year, month, day⟩, rest)

/-- The date of a day of a week of a year; week 53 of a short year runs into the
next one. -/
def weekDate? (year week day : Nat) : Option Date :=
  if 1 ≤ year ∧ 1 ≤ week ∧ week ≤ 53 ∧ 1 ≤ day ∧ day ≤ 7 then
    some (Date.ofDays (Date.firstMonday year + (week - 1 : Nat) * 7 + (day - 1 : Nat)))
  else none

def yearDate? (year day : Nat) : Option Date :=
  if 1 ≤ year ∧ 1 ≤ day ∧ day ≤ Date.yearLength year then
    some (Date.ofYearIndex year (day - 1))
  else none

/-- Reads a week date or a day of a year. The day of a week may be left out at the
end of the text only; it has a dash in front exactly when the week has. -/
def ordinalDate? (t : Text) : Option (Date × Text) := do
  let (year, rest) ← digits? 4 t
  let dashed := (Text.dropChar? '-' rest).isSome
  let rest := (Text.dropChar? '-' rest).getD rest
  match rest with
  | 'W' :: rest => do
      let (week, rest) ← digits? 2 rest
      match rest with
      | [] => do some (← weekDate? year week 1, [])
      | _ => do
          let rest ← if dashed then Text.dropChar? '-' rest else some rest
          let (day, rest) ← digits? 1 rest
          some (← weekDate? year week day, rest)
  | rest => do
      let (day, rest) ← digits? 3 rest
      some (← yearDate? year day, rest)

/-- Reads a date; the calendar notation is tried first. -/
def date? (t : Text) : Option (Date × Text) :=
  (calendarDate? t).orElse fun _ => ordinalDate? t

def startsOffset : Text → Bool
  | c :: _ => c == '+' || c == '-' || c == 'Z' || c == 'z'
  | [] => false

def offset? (t : Text) : Option Int :=
  match t with
  | ['Z'] | ['z'] => some 0
  | sign :: rest => do
      let negative ← if sign = '-' then some true else if sign = '+' then some false else none
      let (hours, rest) ← digits? 2 rest
      let minutes ← match rest with
        | [] => some 0
        | _ => do
            let (minutes, rest) ← digits? 2 ((Text.dropChar? ':' rest).getD rest)
            if rest.isEmpty then some minutes else none
      if hours ≤ 23 ∧ minutes ≤ 59 then
        let size := Reading.ofClock hours minutes 0 0
        some (if negative then -size else size)
      else none
  | [] => none

/-- A time of the day with the offset behind it. -/
structure Clock where
  hours : Nat := 0
  minutes : Nat := 0
  seconds : Nat := 0
  micros : Nat := 0
  offset : Option Int := none
deriving DecidableEq, Repr

/-- Ends a time: nothing or an offset may follow. -/
def Clock.finish? (c : Clock) (t : Text) : Option Clock :=
  if t.isEmpty then some c
  else do some { c with offset := some (← offset? t) }

/-- Reads the fraction of the seconds, if there is one; digits after the sixth are
dropped. -/
def Clock.fraction? (c : Clock) (t : Text) : Option Clock :=
  match t with
  | mark :: rest =>
      let front := rest.takeWhile Char.isDigit
      if (mark = '.' ∨ mark = ',') ∧ !front.isEmpty then
        let six := front.take 6
        let micros := Text.value six * Nat.pow 10 (6 - six.length)
        { c with micros }.finish? (rest.dropWhile Char.isDigit)
      else c.finish? t
  | [] => some c

/-- Reads a time of the day; an offset may stand in the place of any part. -/
def clock? (t : Text) : Option Clock := do
  if startsOffset t then ({} : Clock).finish? t else
  let (hours, rest) ← digits? 2 t
  let c : Clock := { hours }
  if rest.isEmpty || startsOffset rest then c.finish? rest else
  let colons := (Text.dropChar? ':' rest).isSome
  let (minutes, rest) ← digits? 2 ((Text.dropChar? ':' rest).getD rest)
  let c := { c with minutes }
  if rest.isEmpty || startsOffset rest then c.finish? rest else
  let rest ← if colons then Text.dropChar? ':' rest else some rest
  let (seconds, rest) ← digits? 2 rest
  { c with seconds }.fraction? rest

/-- The time since midnight, if there is such a time. Hour 24 has nothing behind it. -/
def Clock.sinceMidnight? (c : Clock) : Option Int :=
  let time := Reading.ofClock c.hours c.minutes c.seconds c.micros
  if c.hours = 24 then
    if c.minutes = 0 ∧ c.seconds = 0 ∧ c.micros = 0 then some time else none
  else if c.hours ≤ 23 ∧ c.minutes ≤ 59 ∧ c.seconds ≤ 59 then some time
  else none

def read? (t : Text) : Option Timestamp := do
  if t.any (127 < ·.toNat) then none else
  let (date, rest) ← date? t
  let clock ← match rest with
    | [] => some {}
    | _ :: time => if time.length < 2 then none else clock? time
  let sinceMidnight ← clock.sinceMidnight?
  let reading := Reading.midnight date + sinceMidnight
  if date.isValid && Reading.inRange reading then some ⟨reading, clock.offset⟩ else none

end Timestamp

end FixtureKeywords
