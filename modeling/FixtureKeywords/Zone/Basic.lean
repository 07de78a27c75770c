import FixtureKeywords.Zone.History
import FixtureKeywords.Zone.SystemClock

/-!
# Zones and moments

A zone is a region, an offset that was given as a zone or written in a timestamp,
or the zone of the system. A moment is a reading in a zone; where a reading
occurs twice the moment says which pass is meant.

A moment is brought to another zone through its instant. Both have to lie in the
supported years. In its own zone a moment stays as it is, if there is only one such
zone; of fixed offsets and of the system's zone there may be several that are equal,
and a moment of one is brought to another like to any zone.
-/

namespace FixtureKeywords

/-- What a reading is read in. -/
inductive Zone where
  | region (key : String) (history : History)
  | fixed (offset : Int)
  | stamped (offset : Int)
  | system (clock : SystemClock)
deriving DecidableEq, Repr

namespace Zone

def universal : Zone := fixed 0

def isSingle : Zone → Bool
  | region .. | stamped _ => true
  | fixed offset => offset = 0
  | system _ => false

def offsetAt (z : Zone) (r : Reading) (second : Bool) : Int :=
  match z with
  | region _ history => (history.atReading r second).offset
  | fixed offset => offset
  | stamped offset => offset
  | system clock => (clock.atReading r second).offset

def hasAnswer (z : Zone) (r : Reading) : Bool :=
  match z with
  | system clock => clock.hasAnswer r
  | _ => true

/-- The name of a zone: the key of a region, the offset of a fixed zone. -/
def label : Zone → String
  | region key _ => key
  | fixed offset => if offset = 0 then "UTC" else "UTC" ++ Iso.offset ":" offset
  | stamped offset =>
      if offset = 0 then "tzutc()"
      else
        let seconds := offset / Reading.second
        s!"tzoffset(None, {seconds})"
  | system _ => "tzlocal()"

def abbreviation (z : Zone) (r : Reading) (second : Bool) : String :=
  match z with
  | region _ history => (history.atReading r second).name
  | fixed _ => z.label
  | stamped offset => if offset = 0 then "UTC" else ""
  | system clock => (clock.atReading r second).name

end Zone

/-- A reading in a zone; `second` says that the second pass of a repeated reading
is meant. -/
structure Moment where
  reading : Reading
  second : Bool
  zone : Zone
deriving DecidableEq, Repr

def Zone.atInstant (z : Zone) (t : Instant) : Except Fault Moment :=
  match z with
  | .region _ history => do
      let (observance, second) := history.atInstant t
      .ok ⟨← Reading.checked (t + observance.offset), second, z⟩
  | .fixed offset | .stamped offset => do
      .ok ⟨← Reading.checked (t + offset), false, z⟩
  | .system clock => do
      let (r, second) ← clock.atInstant t
      .ok ⟨r, second, z⟩

namespace Moment

def offset (m : Moment) : Int :=
  m.zone.offsetAt m.reading m.second

/-- The instant of a moment, if it lies in the supported years. -/
def instant (m : Moment) : Except Fault Instant :=
  if m.zone.hasAnswer m.reading then Reading.checked (m.reading - m.offset)
  else .error .instantOutOfRange

/-- The same instant in another zone. -/
def inZone (m : Moment) (z : Zone) : Except Fault Moment :=
  if m.zone = z ∧ z.isSingle then .ok m else do z.atInstant (← m.instant)

/-- The reading of a moment with its offset. -/
def iso (m : Moment) : String :=
  Iso.reading m.reading ++ Iso.offset ":" m.offset

def abbreviation (m : Moment) : String :=
  m.zone.abbreviation m.reading m.second

end Moment

end FixtureKeywords
