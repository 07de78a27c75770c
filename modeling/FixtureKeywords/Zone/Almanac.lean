import FixtureKeywords.Calendar.Timestamp
import FixtureKeywords.Zone.History

/-!
# Almanacs

What others know about zones and timestamps: a database of the regions of the world, and
a reader of timestamps. Everything that looks up a region or reads a timestamp does so in
the almanac at hand, whichever that is.
-/

namespace FixtureKeywords

/-- What a database of regions answers to a key. A lookup that is broken off ends in a
fault of its own kind. -/
inductive RegionAnswer where
  | found (history : History)
  | unknown
  | broken (kind : String)
deriving DecidableEq, Repr

class Almanac where
  region : Text → RegionAnswer
  /-- A text that is no timestamp has none. -/
  timestamp? : Text → Option Timestamp

end FixtureKeywords
