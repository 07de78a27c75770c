import FixtureKeywords.Zone.History

/-!
# Asian regions

The recorded regions of Asia: for each one what it has observed,
offsets in seconds, and at which epoch second it changed to which observance.
-/

namespace FixtureKeywords.Atlas

def tokyo : Region :=
  .ofTable "Asia/Tokyo"
    [(33539, "LMT"), (36000, "JDT"), (32400, "JST")]
    [(-2587712400, 2), (-683802000, 1), (-672310800, 2), (-654771600, 1), (-640861200, 2),
      (-620298000, 1), (-609411600, 2), (-588848400, 1), (-577962000, 2)]
    (.steady 32400 "JST")

def kolkata : Region :=
  .ofTable "Asia/Kolkata"
    [(21208, "LMT"), (21200, "HMT"), (19270, "MMT"), (19800, "IST"), (23400, "+0630")]
    [(-3645237208, 1), (-3155694800, 2), (-2019705670, 3), (-891581400, 4), (-872058600, 3),
      (-862637400, 4), (-764145000, 3)]
    (.steady 19800 "IST")

def kathmandu : Region :=
  .ofTable "Asia/Kathmandu"
    [(20476, "LMT"), (19800, "+0530"), (20700, "+0545")]
    [(-1577943676, 1), (504901800, 2)]
    (.steady 20700 "+0545")

end FixtureKeywords.Atlas
