import FixtureKeywords.Zone.Atlas.Africa
import FixtureKeywords.Zone.Atlas.America
import FixtureKeywords.Zone.Atlas.Asia
import FixtureKeywords.Zone.Atlas.Europe
import FixtureKeywords.Zone.Atlas.Fixed
import FixtureKeywords.Zone.Atlas.Oceania

/-!
# The atlas

All recorded regions. A region is found by its key, letter for letter.
-/

namespace FixtureKeywords.Atlas

def regions : List Region :=
  [universal, greenwich, fiveWest, fourteenEast, eastern, newYork, saoPaulo, london, paris,
    dublin, tokyo, kolkata, kathmandu, lordHowe, sydney, apia, monrovia]

def find? (key : String) : Option Region :=
  regions.find? (·.key = key)

end FixtureKeywords.Atlas
