import FixtureKeywords.Zone.History

/-!
# Australian and Pacific regions

The recorded regions of Australia and the Pacific: for each one what it has observed,
offsets in seconds, and at which epoch second it changed to which observance.
-/

namespace FixtureKeywords.Atlas

def lordHowe : Region :=
  .ofTable "Australia/Lord_Howe"
    [(38180, "LMT"), (36000, "AEST"), (41400, "+1130"), (37800, "+1030"), (39600, "+11")]
    [(-2364114980, 1), (352216800, 3), (372785400, 2), (384273000, 3), (404839800, 2),
      (415722600, 3), (436289400, 2), (447172200, 3), (467739000, 2), (478621800, 3),
      (499188600, 4), (511282800, 3), (530033400, 4), (542732400, 3), (562087800, 4),
      (574786800, 3), (594142200, 4), (606236400, 3), (625591800, 4), (636476400, 3),
      (657041400, 4), (667926000, 3), (688491000, 4), (699375600, 3), (719940600, 4),
      (731430000, 3), (751995000, 4), (762879600, 3), (783444600, 4), (794329200, 3),
      (814894200, 4), (828198000, 3), (846343800, 4), (859647600, 3), (877793400, 4),
      (891097200, 3), (909243000, 4), (922546800, 3), (941297400, 4), (953996400, 3),
      (967303800, 4), (985446000, 3), (1004196600, 4), (1017500400, 3), (1035646200, 4),
      (1048950000, 3), (1067095800, 4), (1080399600, 3), (1099150200, 4), (1111849200, 3),
      (1130599800, 4), (1143903600, 3), (1162049400, 4), (1174748400, 3), (1193499000, 4),
      (1207407600, 3)]
    (.seasonal (37800, "+1030") (39600, "+11")
      (.weekday 10 1 0, 7200) (.weekday 4 1 0, 7200))

def sydney : Region :=
  .ofTable "Australia/Sydney"
    [(36292, "LMT"), (39600, "AEDT"), (36000, "AEST")]
    [(-2364113092, 2), (-1672560000, 1), (-1665388800, 2), (-883641600, 1), (-876124800, 2),
      (-860400000, 1), (-844675200, 2), (-828345600, 1), (-813225600, 2), (57686400, 1),
      (67968000, 2), (89136000, 1), (100022400, 2), (120585600, 1), (131472000, 2),
      (152035200, 1), (162921600, 2), (183484800, 1), (194976000, 2), (215539200, 1),
      (226425600, 2), (246988800, 1), (257875200, 2), (278438400, 1), (289324800, 2),
      (309888000, 1), (320774400, 2), (341337600, 1), (352224000, 2), (372787200, 1),
      (386697600, 2), (404841600, 1), (415728000, 2), (436291200, 1), (447177600, 2),
      (467740800, 1), (478627200, 2), (499190400, 1), (511286400, 2), (530035200, 1),
      (542736000, 2), (562089600, 1), (574790400, 2), (594144000, 1), (606240000, 2),
      (625593600, 1), (636480000, 2), (657043200, 1), (667929600, 2), (688492800, 1),
      (699379200, 2), (719942400, 1), (731433600, 2), (751996800, 1), (762883200, 2),
      (783446400, 1), (794332800, 2), (814896000, 1), (828201600, 2), (846345600, 1),
      (859651200, 2), (877795200, 1), (891100800, 2), (909244800, 1), (922550400, 2),
      (941299200, 1), (954000000, 2), (967305600, 1), (985449600, 2), (1004198400, 1),
      (1017504000, 2), (1035648000, 1), (1048953600, 2), (1067097600, 1), (1080403200, 2),
      (1099152000, 1), (1111852800, 2), (1130601600, 1), (1143907200, 2), (1162051200, 1),
      (1174752000, 2), (1193500800, 1), (1207411200, 2)]
    (.seasonal (36000, "AEST") (39600, "AEDT")
      (.weekday 10 1 0, 7200) (.weekday 4 1 0, 10800))

def apia : Region :=
  .ofTable "Pacific/Apia"
    [(45184, "LMT"), (-41216, "LMT"), (-41400, "-1130"), (-36000, "-10"), (-39600, "-11"),
      (46800, "+13"), (50400, "+14")]
    [(-2445424384, 1), (-1861878784, 2), (-631110600, 4), (1285498800, 3), (1301752800, 4),
      (1316872800, 3), (1325239200, 6), (1333202400, 5), (1348927200, 6), (1365256800, 5),
      (1380376800, 6), (1396706400, 5), (1411826400, 6), (1428156000, 5), (1443276000, 6),
      (1459605600, 5), (1474725600, 6), (1491055200, 5), (1506175200, 6), (1522504800, 5),
      (1538229600, 6), (1554559200, 5), (1569679200, 6), (1586008800, 5), (1601128800, 6),
      (1617458400, 5)]
    (.steady 46800 "+13")

end FixtureKeywords.Atlas
