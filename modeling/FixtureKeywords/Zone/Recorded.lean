import FixtureKeywords.Zone.Almanac
import FixtureKeywords.Zone.Atlas

/-!
# The recorded almanac

An almanac that knows the recorded regions and reads timestamps in the ISO 8601 notation.
-/

namespace FixtureKeywords

/-- The recorded regions and the ISO notation. -/
instance Almanac.recorded : Almanac where
  region key :=
    match Atlas.find? (String.ofList key) with
    | some r => .found r.history
    | none => .unknown
  timestamp? := Timestamp.read?

end FixtureKeywords
