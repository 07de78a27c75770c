import FixtureKeywords.Log
import FixtureKeywords.Temporal.Offset
import FixtureKeywords.Temporal.Start

/-!
# Datetime requests

A request for a datetime: where to start, what to add, and the zone of the result.
The start is brought to the zone; the calendar offset moves its reading; the
reading is settled to an instant, where a reading that occurs twice is taken in
its first pass and one that does not occur is settled by the offset before the
gap; then the clock offset passes.

Without a zone the result is in the zone of the start or in the system's zone, as
the policy says. Without a start the request starts now; a clock that tells no
offset is read as the system's.
-/

namespace FixtureKeywords

/-- Which zone a result is in that was not asked for in a zone. -/
inductive ZonePolicy where
  | start
  | system
deriving DecidableEq, Repr

namespace ZonePolicy

def name : ZonePolicy → String
  | start => "start"
  | system => "system"

def ofName? (name : String) : Option ZonePolicy :=
  [start, system].find? (·.name = name)

end ZonePolicy

/-- What a clock on hand shows: a moment, or a reading without any offset. -/
inductive ClockReading where
  | aware (m : Moment)
  | naive (r : Reading)
deriving DecidableEq, Repr

namespace ClockReading

/-- What the clock shows, as text. -/
def iso : ClockReading → String
  | aware m => m.iso
  | naive r => Iso.reading r

def zone? : ClockReading → Option Zone
  | aware m => some m.zone
  | naive _ => none

def inZone (z : Zone) (system : SystemClock) : ClockReading → Except Fault Moment
  | aware m => m.inZone z
  | naive r => do
      let instant ← Reading.checked (r - (← system.attach r))
      z.atInstant instant

end ClockReading

/-- What is around a request: the clock on hand and the system's zone. -/
structure Surroundings where
  now : ClockReading
  system : SystemClock
deriving DecidableEq, Repr

/-- A request for a datetime. -/
structure TemporalSpec where
  calendar : CalendarOffset
  clock : ClockOffset
  start : Option Moment
  zone : Option Zone
deriving DecidableEq, Repr

namespace TemporalSpec

/-- The request for the datetime of now. -/
def empty : TemporalSpec := ⟨.zero, .zero, none, none⟩

def add (unit : TemporalUnit) (amount : Int) (spec : TemporalSpec) : Except Fault TemporalSpec :=
  let added := match unit with
    | .calendar unit => (spec.calendar.add? unit amount).map fun calendar => { spec with calendar }
    | .clock unit => (spec.clock.add? unit amount).map fun clock => { spec with clock }
  match added with
  | some spec => .ok spec
  | none => .error (ArgumentFault.offsetTooLarge amount (String.ofList [unit.letter])).raised

def addNamed (unit : String) (amount : Int) (spec : TemporalSpec) : Except Fault TemporalSpec :=
  match unit.toList with
  | [c] => match TemporalUnit.ofLetter? c with
    | some unit => spec.add unit amount
    | none => .error (.argument (.unknownUnit unit))
  | _ => .error (.argument (.unknownUnit unit))

def addAll (spec : TemporalSpec) : List (TemporalUnit × Int) → Except Fault TemporalSpec
  | [] => .ok spec
  | (unit, amount) :: more => do addAll (← spec.add unit amount) more

/-- Where the request starts. -/
def origin (spec : TemporalSpec) (around : Surroundings) : ClockReading :=
  (spec.start.map .aware).getD around.now

def target (spec : TemporalSpec) (policy : ZonePolicy) (around : Surroundings) : Zone :=
  match spec.zone, policy, (spec.origin around).zone? with
  | some zone, _, _ => zone
  | none, .start, some zone => zone
  | none, _, _ => .system around.system

/-- The start in the target zone. Where that is its own zone it stays as it is. -/
def here (spec : TemporalSpec) (policy : ZonePolicy) (around : Surroundings) :
    Except Fault Moment :=
  match spec.zone, policy, spec.origin around with
  | none, .start, .aware m => .ok m
  | _, _, origin => origin.inZone (spec.target policy around) around.system

def settle (calendar : CalendarOffset) (zone : Zone) (m : Moment) : Except Fault Moment := do
  let moved : Moment := ⟨← calendar.move m.reading, false, zone⟩
  zone.atInstant (← moved.instant)

def pass (clock : ClockOffset) (zone : Zone) (m : Moment) : Except Fault Moment := do
  zone.atInstant (← Reading.checked ((← m.instant) + clock.micros))

/-- All steps, without the wording of a failure. -/
def moment (spec : TemporalSpec) (policy : ZonePolicy) (around : Surroundings) :
    Except Fault Moment := do
  let zone := spec.target policy around
  let here ← spec.here policy around
  let settled ← settle spec.calendar zone here
  pass spec.clock zone settled

/-- The record of a request that was met. -/
def record (spec : TemporalSpec) (policy : ZonePolicy) (around : Surroundings) (m : Moment) :
    LogRecord :=
  let start := (spec.origin around).iso
  let zone := (spec.target policy around).label
  let calendar := spec.calendar.text?.getD ""
  let clock := spec.clock.text
  let result := m.iso
  .debug "keywords.datetimes"
    s!"datetime: start={start} zone={zone} calendar={calendar} clock={clock} -> {result}"

/-- The datetime of a request. A request that leaves the supported years is refused
with its offsets and its start; if the calendar offset is too large to be written,
that is the fault. -/
def resolve (spec : TemporalSpec) (policy : ZonePolicy) (around : Surroundings) :
    Except Fault (Logged Moment) :=
  match spec.moment policy around with
  | .ok m => .ok ⟨spec.record policy around m, m⟩
  | .error _ =>
      match spec.calendar.text? with
      | some calendar =>
          .error (.argument
            (.resultOutOfReach calendar spec.clock.text (spec.origin around).iso))
      | none => .error .offsetNotPrintable

end TemporalSpec

end FixtureKeywords
