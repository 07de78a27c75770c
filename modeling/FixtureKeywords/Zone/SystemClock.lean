import FixtureKeywords.Zone.YearRule

/-!
# The system clock

The zone that the machine is set to, by a yearly rule. When the clock is set up, two
instants half a year apart are looked up in the rule. Of what is observed then the one
further west is standard time from now on, and the other one, if it differs, daylight
time. A rule whose daylight time falls between the two leaves the clock without any.

The clock answers for a reading without asking for the transitions of the rule: it
reads the reading as one of standard time and takes over what the rule says of that
instant. A reading that is not on daylight time by this account but would be if it
were earlier by the time saved occurs twice; its first pass is the one on daylight
time.

The account looks back by the time saved, so in a zone with daylight time it has
no answer for the very first readings of year 1.

`attach` is another account of the same clock, for a reading that comes without
any offset.
-/

namespace FixtureKeywords

/-- The zone that the machine is set to, and what was observed at two instants when the
clock was set up. -/
structure SystemClock where
  rule : YearRule
  january : Observance
  july : Observance
deriving DecidableEq, Repr

namespace SystemClock

def meanYear : Int :=
  (365 * 24 + 6) * Reading.hour

/-- The clock of a rule, set up at an instant. The first of the two instants is the last
full number of mean years since 1970. -/
def ofRule (rule : YearRule) (now : Instant) : SystemClock :=
  let start := now / meanYear * meanYear
  ⟨rule, rule.observanceAt start, rule.observanceAt (start + meanYear / 2)⟩

/-- The clock of a zone that is written as a rule. -/
def ofText (t : Text) (now : Instant) : SystemClock :=
  ofRule (.ofText t) now

def universal : SystemClock :=
  ofRule .universal 0

def observanceAt (c : SystemClock) (t : Instant) : Observance :=
  c.rule.observanceAt t

/-- Standard and daylight time; where they do not differ there is no daylight time. -/
def halves (c : SystemClock) : Observance × Observance :=
  if c.july.offset < c.january.offset then (c.july, c.january) else (c.january, c.july)

def standardOffset (c : SystemClock) : Int :=
  c.halves.1.offset

/-- The time that is saved on daylight time. -/
def saved (c : SystemClock) : Int :=
  c.halves.2.offset - c.halves.1.offset

def standardInDaylight (c : SystemClock) (r : Reading) : Bool :=
  c.rule.inDaylight (r - c.standardOffset)

/-- Whether a reading occurs twice. -/
def isRepeated (c : SystemClock) (r : Reading) : Bool :=
  !c.standardInDaylight r && c.standardInDaylight (r - c.saved)

def inDaylight (c : SystemClock) (r : Reading) (second : Bool) : Bool :=
  c.saved != 0 && (if c.isRepeated r then !second else c.standardInDaylight r)

def atReading (c : SystemClock) (r : Reading) (second : Bool) : Observance :=
  if c.inDaylight r second then c.halves.2 else c.halves.1

def hasAnswer (c : SystemClock) (r : Reading) : Bool :=
  c.saved == 0 || c.standardInDaylight r || Reading.inRange (r - c.saved)

/-- The reading of an instant, and whether it occurs for the second time. -/
def atInstant (c : SystemClock) (t : Instant) : Except Fault (Reading × Bool) := do
  if !c.hasAnswer t then .error .instantOutOfRange else
  let standard ← Reading.checked (t + c.standardOffset)
  let daylight := c.saved != 0 && c.standardInDaylight standard
  let r ← Reading.checked (if daylight then standard + c.saved else standard)
  if !c.hasAnswer r then .error .instantOutOfRange else
  .ok (r, c.saved != 0 && c.isRepeated r && !daylight)

def shown (c : SystemClock) (t : Instant) : Except Fault Reading :=
  Reading.checked (t + (c.observanceAt t).offset)

/-- The offset attached to a reading that comes without one: of two candidates the
earlier instant, and where no instant shows the reading the later of the two that
are tried. -/
def attach (c : SystemClock) (r : Reading) : Except Fault Int := do
  let first := r - ((← c.shown r) - r)
  let other ← do
    if (← c.shown first) = r then
      let before := first - Reading.dayLength
      .ok (r - ((← c.shown before) - before))
    else .ok (r - ((← c.shown first) - first))
  let instant ←
    if other = first then .ok first
    else if (← c.shown other) = r then .ok other
    else if (← c.shown first) = r then .ok first
    else .ok (max first other)
  .ok (c.observanceAt instant).offset

end SystemClock

end FixtureKeywords
