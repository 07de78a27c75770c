import FixtureKeywords.Zone.YearRule

/-!
# Histories of a region

What a region observed over time: an observance before all transitions, and
transitions in the order of their instants. An instant has exactly one
observance. A reading has two candidates near a transition: where clocks were set
back the reading occurs twice, where they were set forward it does not occur at
all. The first pass takes the observance before the transition, the second pass
the one after it.
-/

namespace FixtureKeywords

/-- A change of what is observed. -/
structure Transition where
  instant : Instant
  observance : Observance
deriving DecidableEq, Repr

/-- What a region observed over time. -/
structure History where
  initial : Observance
  transitions : List Transition
deriving DecidableEq, Repr

namespace History

/-- The observance at an instant among the transitions still to come, and whether
the readings of the instant have occurred before: until `repeats` they have. -/
def follow (t : Instant) (current : Observance) (repeats : Option Instant) :
    List Transition → Observance × Bool
  | [] => (current, repeats.any (t < ·))
  | next :: later =>
      if next.instant ≤ t then
        follow t next.observance
          (some (next.instant + (current.offset - next.observance.offset))) later
      else (current, repeats.any (t < ·))

/-- The observance at an instant, and whether its reading occurs for the second time. -/
def atInstant (h : History) (t : Instant) : Observance × Bool :=
  follow t h.initial none h.transitions

/-- The observance of a reading among the transitions still to come. A transition
counts for the first pass from the later one of the two readings that it has, for
the second pass from the earlier one. -/
def followReading (r : Reading) (second : Bool) (current : Observance) :
    List Transition → Observance
  | [] => current
  | next :: later =>
      let offset :=
        if second then min current.offset next.observance.offset
        else max current.offset next.observance.offset
      if next.instant + offset ≤ r then followReading r second next.observance later
      else current

def atReading (h : History) (r : Reading) (second : Bool) : Observance :=
  followReading r second h.initial h.transitions

/-- The two transitions of a year, in the order of their instants. -/
def yearTransitions (rule : YearRule) (d : Daylight) (year : Int) : List Transition :=
  let (starts, ends) := rule.turns d year
  let start : Transition := ⟨starts, d.observance⟩
  let finish : Transition := ⟨ends, rule.standard⟩
  if starts ≤ ends then [start, finish] else [finish, start]

def ruleTransitions (rule : YearRule) (after : Instant) : List Transition :=
  match rule.daylight with
  | none => []
  | some d =>
      let year := Reading.year after
      ((List.range (10000 - year).toNat).flatMap fun (n : Nat) =>
        yearTransitions rule d (year + n)).filter
        (after < ·.instant)

end History

/-- A region of the world: its key, its recorded transitions, and the rule in force
from the last one on. -/
structure Region where
  key : String
  initial : Observance
  recorded : List Transition
  rule : YearRule
deriving DecidableEq, Repr

namespace Region

def lastRecorded (r : Region) : Instant :=
  (r.recorded.getLast?.map Transition.instant).getD Reading.first

/-- What the region observes: what was recorded, and then what its rule says. -/
def history (r : Region) : History :=
  ⟨r.initial, r.recorded ++ History.ruleTransitions r.rule r.lastRecorded⟩

/-- Puts a recorded row together: observances, and transitions given by epoch
seconds and the index of the observance. -/
def ofTable (key : String) (observances : List (Int × String)) (rows : List (Int × Nat))
    (rule : YearRule) : Region :=
  let known := observances.map fun (seconds, name) =>
    (⟨seconds * Reading.second, name⟩ : Observance)
  let pick (i : Nat) : Observance := known.getD i ⟨0, "UTC"⟩
  ⟨key, pick 0, rows.map fun (seconds, i) => ⟨seconds * Reading.second, pick i⟩, rule⟩

end Region

end FixtureKeywords
