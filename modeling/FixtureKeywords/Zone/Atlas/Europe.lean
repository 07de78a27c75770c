import FixtureKeywords.Zone.History

/-!
# European regions

The recorded regions of Europe: for each one what it has observed,
offsets in seconds, and at which epoch second it changed to which observance.
-/

namespace FixtureKeywords.Atlas

def london : Region :=
  .ofTable "Europe/London"
    [(-75, "LMT"), (3600, "BST"), (0, "GMT"), (7200, "BDST"), (3600, "BST")]
    [(-3852662325, 2), (-1691964000, 1), (-1680472800, 2), (-1664143200, 1), (-1650146400, 2),
      (-1633903200, 1), (-1617487200, 2), (-1601848800, 1), (-1586037600, 2), (-1570399200, 1),
      (-1552168800, 2), (-1538344800, 1), (-1522533600, 2), (-1507500000, 1), (-1490565600, 2),
      (-1473631200, 1), (-1460930400, 2), (-1442786400, 1), (-1428876000, 2), (-1410732000, 1),
      (-1396216800, 2), (-1379282400, 1), (-1364767200, 2), (-1348437600, 1), (-1333317600, 2),
      (-1315778400, 1), (-1301263200, 2), (-1284328800, 1), (-1269813600, 2), (-1253484000, 1),
      (-1238364000, 2), (-1221429600, 1), (-1206914400, 2), (-1189980000, 1), (-1175464800, 2),
      (-1159135200, 1), (-1143410400, 2), (-1126476000, 1), (-1111960800, 2), (-1095631200, 1),
      (-1080511200, 2), (-1063576800, 1), (-1049061600, 2), (-1032127200, 1), (-1017612000, 2),
      (-1001282400, 1), (-986162400, 2), (-969228000, 1), (-950479200, 2), (-942012000, 1),
      (-904518000, 3), (-896050800, 1), (-875487600, 3), (-864601200, 1), (-844038000, 3),
      (-832546800, 1), (-812588400, 3), (-798073200, 1), (-781052400, 3), (-772066800, 1),
      (-764805600, 2), (-748476000, 1), (-733356000, 2), (-719445600, 1), (-717030000, 3),
      (-706748400, 1), (-699487200, 2), (-687996000, 1), (-668037600, 2), (-654732000, 1),
      (-636588000, 2), (-622072800, 1), (-605743200, 2), (-590623200, 1), (-574293600, 2),
      (-558568800, 1), (-542239200, 2), (-527119200, 1), (-512604000, 2), (-496274400, 1),
      (-481154400, 2), (-464220000, 1), (-449704800, 2), (-432165600, 1), (-417650400, 2),
      (-401320800, 1), (-386200800, 2), (-369266400, 1), (-354751200, 2), (-337816800, 1),
      (-323301600, 2), (-306972000, 1), (-291852000, 2), (-276732000, 1), (-257983200, 2),
      (-245282400, 1), (-226533600, 2), (-213228000, 1), (-195084000, 2), (-182383200, 1),
      (-163634400, 2), (-150933600, 1), (-132184800, 2), (-119484000, 1), (-100735200, 2),
      (-88034400, 1), (-68680800, 2), (-59004000, 1), (-37242000, 4), (57722400, 2),
      (69818400, 1), (89172000, 2), (101268000, 1), (120621600, 2), (132717600, 1),
      (152071200, 2), (164167200, 1), (183520800, 2), (196221600, 1), (214970400, 2),
      (227671200, 1), (246420000, 2), (259120800, 1), (278474400, 2), (290570400, 1),
      (309924000, 2), (322020000, 1), (341373600, 2), (354675600, 1), (372819600, 2),
      (386125200, 1), (404269200, 2), (417574800, 1), (435718800, 2), (449024400, 1),
      (467773200, 2), (481078800, 1), (499222800, 2), (512528400, 1), (530672400, 2),
      (543978000, 1), (562122000, 2), (575427600, 1), (593571600, 2), (606877200, 1),
      (625626000, 2), (638326800, 1), (657075600, 2), (670381200, 1), (688525200, 2),
      (701830800, 1), (719974800, 2), (733280400, 1), (751424400, 2), (764730000, 1),
      (782874000, 2), (796179600, 1), (814323600, 2), (820454400, 2)]
    (.seasonal (0, "GMT") (3600, "BST")
      (.weekday 3 5 0, 3600) (.weekday 10 5 0, 7200))

def paris : Region :=
  .ofTable "Europe/Paris"
    [(561, "LMT"), (561, "PMT"), (3600, "WEST"), (0, "WET"), (3600, "CET"), (7200, "CEST"),
      (7200, "WEMT")]
    [(-2486592561, 1), (-1855958961, 3), (-1689814800, 2), (-1680397200, 3), (-1665363600, 2),
      (-1648342800, 3), (-1635123600, 2), (-1616893200, 3), (-1604278800, 2), (-1585443600, 3),
      (-1574038800, 2), (-1552266000, 3), (-1539997200, 2), (-1520557200, 3), (-1507510800, 2),
      (-1490576400, 3), (-1470618000, 2), (-1459126800, 3), (-1444006800, 2), (-1427677200, 3),
      (-1411952400, 2), (-1396227600, 3), (-1379293200, 2), (-1364778000, 3), (-1348448400, 2),
      (-1333328400, 3), (-1316394000, 2), (-1301274000, 3), (-1284339600, 2), (-1269824400, 3),
      (-1253494800, 2), (-1238374800, 3), (-1221440400, 2), (-1206925200, 3), (-1191200400, 2),
      (-1175475600, 3), (-1160355600, 2), (-1143421200, 3), (-1127696400, 2), (-1111971600, 3),
      (-1096851600, 2), (-1080522000, 3), (-1063587600, 2), (-1049072400, 3), (-1033347600, 2),
      (-1017622800, 3), (-1002502800, 2), (-986173200, 3), (-969238800, 2), (-950490000, 3),
      (-942012000, 2), (-932436000, 5), (-857257200, 4), (-844556400, 5), (-828226800, 4),
      (-812502000, 5), (-800071200, 6), (-796266000, 2), (-781052400, 6), (-766623600, 4),
      (196819200, 5), (212540400, 4), (228877200, 5), (243997200, 4), (260326800, 5),
      (276051600, 4), (291776400, 5), (307501200, 4), (323830800, 5), (338950800, 4),
      (354675600, 5), (370400400, 4), (386125200, 5), (401850000, 4), (417574800, 5),
      (433299600, 4), (449024400, 5), (465354000, 4), (481078800, 5), (496803600, 4),
      (512528400, 5), (528253200, 4), (543978000, 5), (559702800, 4), (575427600, 5),
      (591152400, 4), (606877200, 5), (622602000, 4), (638326800, 5), (654656400, 4),
      (670381200, 5), (686106000, 4), (701830800, 5), (717555600, 4), (733280400, 5),
      (749005200, 4), (764730000, 5), (780454800, 4), (796179600, 5), (811904400, 4),
      (828234000, 5)]
    (.seasonal (3600, "CET") (7200, "CEST")
      (.weekday 3 5 0, 7200) (.weekday 10 5 0, 10800))

def dublin : Region :=
  .ofTable "Europe/Dublin"
    [(-1521, "LMT"), (-1521, "DMT"), (2079, "IST"), (3600, "BST"), (0, "GMT"), (3600, "IST"),
      (0, "GMT"), (3600, "IST")]
    [(-2821649679, 1), (-1691962479, 2), (-1680471279, 4), (-1664143200, 3), (-1650146400, 4),
      (-1633903200, 3), (-1617487200, 4), (-1601848800, 3), (-1586037600, 4), (-1570399200, 3),
      (-1552168800, 4), (-1538344800, 3), (-1522533600, 4), (-1507500000, 5), (-1490565600, 4),
      (-1473631200, 5), (-1460930400, 4), (-1442786400, 5), (-1428876000, 4), (-1410732000, 5),
      (-1397426400, 4), (-1379282400, 5), (-1364767200, 4), (-1348437600, 5), (-1333317600, 4),
      (-1315778400, 5), (-1301263200, 4), (-1284328800, 5), (-1269813600, 4), (-1253484000, 5),
      (-1238364000, 4), (-1221429600, 5), (-1206914400, 4), (-1189980000, 5), (-1175464800, 4),
      (-1159135200, 5), (-1143410400, 4), (-1126476000, 5), (-1111960800, 4), (-1095631200, 5),
      (-1080511200, 4), (-1063576800, 5), (-1049061600, 4), (-1032127200, 5), (-1017612000, 4),
      (-1001282400, 5), (-986162400, 4), (-969228000, 5), (-950479200, 4), (-942012000, 5),
      (-733356000, 4), (-719445600, 5), (-699487200, 4), (-684972000, 5), (-668037600, 4),
      (-654732000, 5), (-636588000, 4), (-622072800, 5), (-605743200, 4), (-590623200, 5),
      (-574293600, 4), (-558568800, 5), (-542239200, 4), (-527119200, 5), (-512604000, 4),
      (-496274400, 5), (-481154400, 4), (-464220000, 5), (-449704800, 4), (-432165600, 5),
      (-417650400, 4), (-401320800, 5), (-386200800, 4), (-369266400, 5), (-354751200, 4),
      (-337816800, 5), (-323301600, 4), (-306972000, 5), (-291852000, 4), (-276732000, 5),
      (-257983200, 4), (-245282400, 5), (-226533600, 4), (-213228000, 5), (-195084000, 4),
      (-182383200, 5), (-163634400, 4), (-150933600, 5), (-132184800, 4), (-119484000, 5),
      (-100735200, 4), (-88034400, 5), (-68680800, 4), (-59004000, 5), (-37242000, 7),
      (57722400, 6), (69818400, 7), (89172000, 6), (101268000, 7), (120621600, 6),
      (132717600, 7), (152071200, 6), (164167200, 7), (183520800, 6), (196221600, 7),
      (214970400, 6), (227671200, 7), (246420000, 6), (259120800, 7), (278474400, 6),
      (290570400, 7), (309924000, 6), (322020000, 7), (341373600, 6), (354675600, 7),
      (372819600, 6), (386125200, 7), (404269200, 6), (417574800, 7), (435718800, 6),
      (449024400, 7), (467773200, 6), (481078800, 7), (499222800, 6), (512528400, 7),
      (530672400, 6), (543978000, 7), (562122000, 6), (575427600, 7), (593571600, 6),
      (606877200, 7), (625626000, 6), (638326800, 7), (657075600, 6), (670381200, 7),
      (688525200, 6), (701830800, 7), (719974800, 6), (733280400, 7), (751424400, 6),
      (764730000, 7), (782874000, 6), (796179600, 7), (814323600, 6), (828234000, 7)]
    (.seasonal (3600, "IST") (0, "GMT")
      (.weekday 10 5 0, 7200) (.weekday 3 5 0, 3600))

end FixtureKeywords.Atlas
