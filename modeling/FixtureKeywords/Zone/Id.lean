import FixtureKeywords.Text.Caseless
import FixtureKeywords.Zone.Almanac
import FixtureKeywords.Zone.Basic

/-!
# Zone ids

A zone is named by `Z`, by an offset, or by the key of a region. An offset has a
sign, one or two digits of hours and perhaps two digits of minutes, and may follow
the name of Universal Time in any case.
-/

namespace FixtureKeywords.Zone

/-- The names of Universal Time that may stand before an offset. -/
def universalNames : List Text :=
  ["utc".toList, "gmt".toList, "ut".toList]

/-- An offset as it is written: a sign, hours and minutes. -/
structure WrittenOffset where
  negative : Bool
  hours : Nat
  minutes : Nat
deriving DecidableEq, Repr

/-- The hours and minutes behind a sign. -/
def clockParts? (t : Text) : Option (Nat × Nat) :=
  let digits := t.takeWhile Char.isDigit
  match digits.length, t.dropWhile Char.isDigit with
  | 1, [] | 2, [] => some (Text.value digits, 0)
  | 3, [] | 4, [] =>
      let hours := digits.take (digits.length - 2)
      some (Text.value hours, Text.value (digits.drop hours.length))
  | 1, ':' :: minutes | 2, ':' :: minutes =>
      if minutes.length = 2 ∧ Text.isNumeral minutes then
        some (Text.value digits, Text.value minutes)
      else none
  | _, _ => none

def signedOffset? (t : Text) : Option WrittenOffset :=
  match t with
  | '-' :: rest => (clockParts? rest).map fun (hours, minutes) => ⟨true, hours, minutes⟩
  | '+' :: rest => (clockParts? rest).map fun (hours, minutes) => ⟨false, hours, minutes⟩
  | _ => none

/-- Reads an offset, perhaps behind a name of Universal Time. -/
def writtenOffset? (t : Text) : Option WrittenOffset :=
  (signedOffset? t).orElse fun _ =>
    universalNames.findSome? fun name => (Text.dropWord? name t).bind signedOffset?

/-- The zone with an id. Offsets reach to 18 hours. -/
def ofId [Almanac] (t : Text) : Except Fault Zone :=
  let id := Text.strip t
  if id = ['Z'] then .ok universal else
  match writtenOffset? id with
  | some o =>
      if 18 < o.hours ∨ 59 < o.minutes then
        .error (.argument (.badZoneOffset (String.ofList t)))
      else
        let size := Reading.ofClock o.hours o.minutes 0 0
        .ok (fixed (if o.negative then -size else size))
  | none =>
      match Almanac.region id with
      | .found history => .ok (region (String.ofList id) history)
      | .unknown => .error (.argument (.badZoneName (String.ofList t)))
      | .broken kind => .error (.foreign kind)

end FixtureKeywords.Zone
