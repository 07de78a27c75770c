import FixtureKeywords.Zone.Basic

/-!
# Layouts

Writing a moment by a layout: text in which a percent sign and a letter stand for
a part of the moment. Names of days and months are English. Years are written
without zeros in front. A letter without a meaning is written as it stands.
-/

namespace FixtureKeywords.Layout

def dayNames : List String :=
  ["Monday", "Tuesday", "Wednesday", "Thursday", "Friday", "Saturday", "Sunday"]

def monthNames : List String :=
  ["January", "February", "March", "April", "May", "June", "July", "August", "September",
    "October", "November", "December"]

/-- The first three letters of a name. -/
def short (name : String) : String :=
  String.ofList (name.toList.take 3)

def faceHour (hours : Nat) : Nat :=
  if hours % 12 = 0 then 12 else hours % 12

/-- The number of the week of the year, when weeks start on a weekday; days before
the first such day are in week 0. -/
def weekFrom (start : Nat) (d : Date) : Nat :=
  (d.dayOfYear - 1 + 7 - (d.weekday + 7 - start) % 7) / 7

/-- Morning or afternoon. -/
def half (hours : Nat) : String :=
  if hours < 12 then "AM" else "PM"

/-- Month, day and year with slashes, two digits each. -/
def slashed (d : Date) : String :=
  "/".intercalate
    [Text.padded 2 d.month, Text.padded 2 d.day, Text.padded 2 (d.year % 100).toNat]

/-- Numbers of two digits with colons. -/
def colons (parts : List Nat) : String :=
  ":".intercalate (parts.map (Text.padded 2))

def part? (m : Moment) (letter : Char) : Option String :=
  let d := Reading.date m.reading
  let hours := Reading.hours m.reading
  let minutes := Reading.minutes m.reading
  let seconds := Reading.seconds m.reading
  let dayName := dayNames.getD d.weekday ""
  let monthName := monthNames.getD (d.month - 1) ""
  let year := toString d.year
  match letter with
  | 'Y' => some year
  | 'y' => some (Text.padded 2 (d.year % 100).toNat)
  | 'C' => some (toString (d.year / 100))
  | 'G' => some (toString d.week.1)
  | 'g' => some (Text.padded 2 (d.week.1 % 100).toNat)
  | 'm' => some (Text.padded 2 d.month)
  | 'B' => some monthName
  | 'b' | 'h' => some (short monthName)
  | 'd' => some (Text.padded 2 d.day)
  | 'e' => some (Text.spacePadded 2 d.day)
  | 'j' => some (Text.padded 3 d.dayOfYear)
  | 'A' => some dayName
  | 'a' => some (short dayName)
  | 'u' => some (toString (d.weekday + 1))
  | 'w' => some (toString ((d.weekday + 1) % 7))
  | 'U' => some (Text.padded 2 (weekFrom 6 d))
  | 'W' => some (Text.padded 2 (weekFrom 0 d))
  | 'V' => some (Text.padded 2 d.week.2)
  | 'H' => some (Text.padded 2 hours)
  | 'k' => some (Text.spacePadded 2 hours)
  | 'I' => some (Text.padded 2 (faceHour hours))
  | 'l' => some (Text.spacePadded 2 (faceHour hours))
  | 'M' => some (Text.padded 2 minutes)
  | 'S' => some (Text.padded 2 seconds)
  | 'f' => some (Text.padded 6 (Reading.micros m.reading))
  | 'p' => some (half hours)
  | 'P' => some (if hours < 12 then "am" else "pm")
  | 'z' => some (Iso.offset "" m.offset)
  | 'Z' => some m.abbreviation
  | 'F' => some ("-".intercalate [year, Text.padded 2 d.month, Text.padded 2 d.day])
  | 'D' | 'x' => some (slashed d)
  | 'T' | 'X' => some (colons [hours, minutes, seconds])
  | 'R' => some (colons [hours, minutes])
  | 'r' => some (colons [faceHour hours, minutes, seconds] ++ " " ++ half hours)
  | 'c' => some (" ".intercalate
      [short dayName, short monthName, Text.spacePadded 2 d.day,
        colons [hours, minutes, seconds], year])
  | 'n' => some "\n"
  | 't' => some "\t"
  | '%' => some "%"
  | _ => none

def write (m : Moment) : Text → String
  | [] => ""
  | '%' :: letter :: rest =>
      (part? m letter).getD (String.ofList ['%', letter]) ++ write m rest
  | c :: rest => String.ofList [c] ++ write m rest

end FixtureKeywords.Layout
