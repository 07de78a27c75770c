import FixtureKeywords.Method
import FixtureKeywords.Temporal.Spec

/-!
# Datetimes step by step

The counterpart of a datetime keyword as a sequence of calls. A start and a zone
are given at most once; offsets add up. Building applies everything and changes
nothing. Results are in the system's zone unless a zone is given.
-/

namespace FixtureKeywords

namespace TemporalSpec

/-- A start as a user gives it. -/
inductive StartGiven where
  | text (t : Text)
  | clock (r : ClockReading)
deriving DecidableEq, Repr

variable [Almanac]

/-- Gives the start, which needs an offset. -/
def setStart (given : StartGiven) (spec : TemporalSpec) : Except Fault TemporalSpec :=
  if spec.start.isSome then .error (.argument .startTwice) else
  match given with
  | .text t => do .ok { spec with start := some (← Moment.ofStart t) }
  | .clock (.aware m) =>
      -- The system's zone has no offset for some readings at the beginning of the first year.
      if m.zone.hasAnswer m.reading then .ok { spec with start := some m }
      else .error .instantOutOfRange
  | .clock (.naive r) => .error (.argument (.naiveStart (Iso.reading r)))

def setZone (id : Text) (spec : TemporalSpec) : Except Fault TemporalSpec :=
  if spec.zone.isSome then .error (.argument .zoneTwice)
  else do .ok { spec with zone := some (← Zone.ofId id) }

/-- A call of a user. -/
inductive Call where
  | add (unit : TemporalUnit) (amount : Int)
  | start (given : StartGiven)
  | zone (id : Text)
  | build
  | clear
  | buildAndClear
deriving DecidableEq, Repr

/-- The answer to a call that succeeds. -/
inductive Answer where
  | chained
  | cleared
  | built (m : Moment)
deriving DecidableEq, Repr

def build (spec : TemporalSpec) (around : Surroundings) : Except Fault Moment :=
  (spec.resolve .system around).map Logged.value

def act (around : Surroundings) : Call → Method Id TemporalSpec Answer
  | .add unit amount => do
      Method.assign (add unit amount)
      return .chained
  | .start given => do
      Method.assign (setStart given)
      return .chained
  | .zone id => do
      Method.assign (setZone id)
      return .chained
  | .build => do
      return .built (← Method.ofOutcome ((← get).build around))
  | .clear => do
      set empty
      return .cleared
  | .buildAndClear => do
      let m ← Method.ofOutcome ((← get).build around)
      set empty
      return .built m

/-- Makes calls in order. Each one is listed with its outcome and the request after it. -/
def performAll (around : Surroundings) (spec : TemporalSpec) (calls : List Call) :
    List (Except Fault Answer × TemporalSpec) :=
  Id.run (Method.callAll (act around) spec calls)

end TemporalSpec

end FixtureKeywords
