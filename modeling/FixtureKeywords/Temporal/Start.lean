import FixtureKeywords.Zone.Id

/-!
# Starts

The start of a datetime request is a timestamp with an offset, perhaps with the
key of a region in brackets behind it. The timestamp gives the instant; with a
region, the start is that instant in the region.
-/

namespace FixtureKeywords.Moment

/-- Splits a start into the timestamp and the text in brackets at the end. -/
def startParts? (t : Text) : Option (Text × Option Text) :=
  let isBracket (c : Char) : Bool := c == '[' || c == ']'
  let stamp := t.takeWhile fun c => !isBracket c
  if stamp.isEmpty then none else
  match t.dropWhile fun c => !isBracket c with
  | [] => some (stamp, none)
  | '[' :: rest =>
      let region := rest.takeWhile fun c => !isBracket c
      if region.isEmpty then none
      else if rest.dropWhile (fun c => !isBracket c) = [']'] then some (stamp, some region)
      else none
  | _ => none

def ofStart [Almanac] (t : Text) : Except Fault Moment :=
  let bad : Fault := .argument (.badStart (String.ofList t))
  match startParts? (Text.strip t) with
  | none => .error bad
  | some (stamp, region) =>
      match Almanac.timestamp? (Text.strip stamp) with
      | none => .error bad
      | some ⟨_, none⟩ => .error (.argument (.startWithoutOffset (String.ofList t)))
      | some ⟨reading, some offset⟩ =>
          let start : Moment := ⟨reading, false, .stamped offset⟩
          match region with
          | none => .ok start
          | some region => do start.inZone (← Zone.ofId region)

end FixtureKeywords.Moment
