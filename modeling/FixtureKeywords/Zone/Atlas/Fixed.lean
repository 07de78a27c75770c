import FixtureKeywords.Zone.History

/-!
# Regions without transitions

Universal Time under its names, and offsets that never change, in seconds.
-/

namespace FixtureKeywords.Atlas

def universal : Region :=
  .ofTable "UTC"
    [(0, "UTC")]
    []
    (.steady 0 "UTC")

def greenwich : Region :=
  .ofTable "GMT"
    [(0, "GMT")]
    []
    (.steady 0 "GMT")

/-- The region `Etc/GMT+5`. -/
def fiveWest : Region :=
  .ofTable "Etc/GMT+5"
    [(-18000, "-05")]
    []
    (.steady (-18000) "-05")

/-- The region `Etc/GMT-14`. -/
def fourteenEast : Region :=
  .ofTable "Etc/GMT-14"
    [(50400, "+14")]
    []
    (.steady 50400 "+14")

end FixtureKeywords.Atlas
