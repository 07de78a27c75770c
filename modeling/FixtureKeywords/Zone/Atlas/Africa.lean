import FixtureKeywords.Zone.History

/-!
# African regions

The recorded regions of Africa: for each one what it has observed,
offsets in seconds, and at which epoch second it changed to which observance.
-/

namespace FixtureKeywords.Atlas

def monrovia : Region :=
  .ofTable "Africa/Monrovia"
    [(-2588, "LMT"), (-2588, "MMT"), (-2670, "MMT"), (0, "GMT")]
    [(-2776979812, 1), (-1604359012, 2), (63593070, 3)]
    (.steady 0 "GMT")

end FixtureKeywords.Atlas
