import FixtureKeywords.Zone.History

/-!
# American regions

The recorded regions of America: for each one what it has observed,
offsets in seconds, and at which epoch second it changed to which observance.
-/

namespace FixtureKeywords.Atlas

/-- The region `EST5EDT`. -/
def eastern : Region :=
  .ofTable "EST5EDT"
    [(-18000, "EST"), (-14400, "EDT")]
    [(-1633280400, 1), (-1615140000, 0), (-1601830800, 1), (-1583690400, 0), (-880218000, 1),
      (-765396000, 0), (-84387600, 1), (-68666400, 0), (-52938000, 1), (-37216800, 0),
      (-21488400, 1), (-5767200, 0), (9961200, 1), (25682400, 0), (41410800, 1), (57736800, 0),
      (73465200, 1), (89186400, 0), (104914800, 1), (120636000, 0), (126687600, 1),
      (152085600, 0), (162370800, 1), (183535200, 0), (199263600, 1), (215589600, 0),
      (230713200, 1), (247039200, 0), (262767600, 1), (278488800, 0), (294217200, 1),
      (309938400, 0), (325666800, 1), (341388000, 0), (357116400, 1), (372837600, 0),
      (388566000, 1), (404892000, 0), (420015600, 1), (436341600, 0), (452070000, 1),
      (467791200, 0), (483519600, 1), (499240800, 0), (514969200, 1), (530690400, 0),
      (544604400, 1), (562140000, 0), (576054000, 1), (594194400, 0), (607503600, 1),
      (625644000, 0), (638953200, 1), (657093600, 0), (671007600, 1), (688543200, 0),
      (702457200, 1), (719992800, 0), (733906800, 1), (752047200, 0), (765356400, 1),
      (783496800, 0), (796806000, 1), (814946400, 0), (828860400, 1), (846396000, 0),
      (860310000, 1), (877845600, 0), (891759600, 1), (909295200, 0), (923209200, 1),
      (941349600, 0), (954658800, 1), (972799200, 0), (986108400, 1), (1004248800, 0),
      (1018162800, 1), (1035698400, 0), (1049612400, 1), (1067148000, 0), (1081062000, 1),
      (1099202400, 0), (1112511600, 1), (1130652000, 0), (1143961200, 1), (1162101600, 0),
      (1173596400, 1)]
    (.seasonal (-18000, "EST") (-14400, "EDT")
      (.weekday 3 2 0, 7200) (.weekday 11 1 0, 7200))

def newYork : Region :=
  .ofTable "America/New_York"
    [(-17762, "LMT"), (-14400, "EDT"), (-18000, "EST"), (-14400, "EWT"), (-14400, "EPT")]
    [(-2717650800, 2), (-1633280400, 1), (-1615140000, 2), (-1601830800, 1), (-1583690400, 2),
      (-1570381200, 1), (-1551636000, 2), (-1536512400, 1), (-1523210400, 2), (-1504458000, 1),
      (-1491760800, 2), (-1473008400, 1), (-1459706400, 2), (-1441558800, 1), (-1428256800, 2),
      (-1410109200, 1), (-1396807200, 2), (-1378659600, 1), (-1365357600, 2), (-1347210000, 1),
      (-1333908000, 2), (-1315155600, 1), (-1301853600, 2), (-1283706000, 1), (-1270404000, 2),
      (-1252256400, 1), (-1238954400, 2), (-1220806800, 1), (-1207504800, 2), (-1189357200, 1),
      (-1176055200, 2), (-1157302800, 1), (-1144605600, 2), (-1125853200, 1), (-1112551200, 2),
      (-1094403600, 1), (-1081101600, 2), (-1062954000, 1), (-1049652000, 2), (-1031504400, 1),
      (-1018202400, 2), (-1000054800, 1), (-986752800, 2), (-968000400, 1), (-955303200, 2),
      (-936550800, 1), (-923248800, 2), (-905101200, 1), (-891799200, 2), (-880218000, 3),
      (-769395600, 4), (-765396000, 2), (-747248400, 1), (-733946400, 2), (-715798800, 1),
      (-702496800, 2), (-684349200, 1), (-671047200, 2), (-652899600, 1), (-639597600, 2),
      (-620845200, 1), (-608148000, 2), (-589395600, 1), (-576093600, 2), (-557946000, 1),
      (-544644000, 2), (-526496400, 1), (-513194400, 2), (-495046800, 1), (-481744800, 2),
      (-463597200, 1), (-447271200, 2), (-431542800, 1), (-415821600, 2), (-400093200, 1),
      (-384372000, 2), (-368643600, 1), (-352922400, 2), (-337194000, 1), (-321472800, 2),
      (-305744400, 1), (-289418400, 2), (-273690000, 1), (-257968800, 2), (-242240400, 1),
      (-226519200, 2), (-210790800, 1), (-195069600, 2), (-179341200, 1), (-163620000, 2),
      (-147891600, 1), (-131565600, 2), (-116442000, 1), (-100116000, 2), (-84387600, 1),
      (-68666400, 2), (-52938000, 1), (-37216800, 2), (-21488400, 1), (-5767200, 2),
      (9961200, 1), (25682400, 2), (41410800, 1), (57736800, 2), (73465200, 1), (89186400, 2),
      (104914800, 1), (120636000, 2), (126687600, 1), (152085600, 2), (162370800, 1),
      (183535200, 2), (199263600, 1), (215589600, 2), (230713200, 1), (247039200, 2),
      (262767600, 1), (278488800, 2), (294217200, 1), (309938400, 2), (325666800, 1),
      (341388000, 2), (357116400, 1), (372837600, 2), (388566000, 1), (404892000, 2),
      (420015600, 1), (436341600, 2), (452070000, 1), (467791200, 2), (483519600, 1),
      (499240800, 2), (514969200, 1), (530690400, 2), (544604400, 1), (562140000, 2),
      (576054000, 1), (594194400, 2), (607503600, 1), (625644000, 2), (638953200, 1),
      (657093600, 2), (671007600, 1), (688543200, 2), (702457200, 1), (719992800, 2),
      (733906800, 1), (752047200, 2), (765356400, 1), (783496800, 2), (796806000, 1),
      (814946400, 2), (828860400, 1), (846396000, 2), (860310000, 1), (877845600, 2),
      (891759600, 1), (909295200, 2), (923209200, 1), (941349600, 2), (954658800, 1),
      (972799200, 2), (986108400, 1), (1004248800, 2), (1018162800, 1), (1035698400, 2),
      (1049612400, 1), (1067148000, 2), (1081062000, 1), (1099202400, 2), (1112511600, 1),
      (1130652000, 2), (1143961200, 1), (1162101600, 2), (1173596400, 1)]
    (.seasonal (-18000, "EST") (-14400, "EDT")
      (.weekday 3 2 0, 7200) (.weekday 11 1 0, 7200))

def saoPaulo : Region :=
  .ofTable "America/Sao_Paulo"
    [(-11188, "LMT"), (-7200, "-02"), (-10800, "-03")]
    [(-1767214412, 2), (-1206957600, 1), (-1191362400, 2), (-1175374800, 1), (-1159826400, 2),
      (-633819600, 1), (-622069200, 2), (-602283600, 1), (-591832800, 2), (-570747600, 1),
      (-560210400, 2), (-539125200, 1), (-531352800, 2), (-195426000, 1), (-184197600, 2),
      (-155163600, 1), (-149983200, 2), (-128898000, 1), (-121122000, 2), (-99954000, 1),
      (-89589600, 2), (-68418000, 1), (-57967200, 2), (499748400, 1), (511236000, 2),
      (530593200, 1), (540266400, 2), (562129200, 1), (571197600, 2), (592974000, 1),
      (602042400, 2), (624423600, 1), (634701600, 2), (656478000, 1), (666756000, 2),
      (687927600, 1), (697600800, 2), (719982000, 1), (728445600, 2), (750826800, 1),
      (761709600, 2), (782276400, 1), (793159200, 2), (813726000, 1), (824004000, 2),
      (844570800, 1), (856058400, 2), (876106800, 1), (888717600, 2), (908074800, 1),
      (919562400, 2), (938919600, 1), (951616800, 2), (970974000, 1), (982461600, 2),
      (1003028400, 1), (1013911200, 2), (1036292400, 1), (1045360800, 2), (1066532400, 1),
      (1076810400, 2), (1099364400, 1), (1108864800, 2), (1129431600, 1), (1140314400, 2),
      (1162695600, 1), (1172368800, 2), (1192330800, 1), (1203213600, 2), (1224385200, 1),
      (1234663200, 2), (1255834800, 1), (1266717600, 2), (1287284400, 1), (1298167200, 2),
      (1318734000, 1), (1330221600, 2), (1350788400, 1), (1361066400, 2), (1382238000, 1),
      (1392516000, 2), (1413687600, 1), (1424570400, 2), (1445137200, 1), (1456020000, 2),
      (1476586800, 1), (1487469600, 2), (1508036400, 1), (1518919200, 2), (1541300400, 1),
      (1550368800, 2)]
    (.steady (-10800) "-03")

end FixtureKeywords.Atlas
