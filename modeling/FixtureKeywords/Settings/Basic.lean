import FixtureKeywords.Datum
import FixtureKeywords.Generation
import FixtureKeywords.Random.Seed

/-!
# Settings

What a run is configured by. The default settings are written as data, in the
form of a configuration file, so that a file is laid over them before anything is
checked.
-/

namespace FixtureKeywords

/-- What a run is configured by. -/
structure Settings where
  schemaVersion : Int
  seed : Option Seed
  seedVariable : String
  defaultLength : Int
  policy : ZonePolicy
  outputFormat : String
deriving DecidableEq, Repr

namespace Settings

/-- The configuration that is in force without a file. -/
def packaged : List (Scalar × Datum) :=
  [ (.text "schema_version", .scalar (.whole 1)),
    (.text "random", .table
      [ (.text "seed", .scalar .null),
        (.text "seed_env", .text "DDTGEN_SEED") ]),
    (.text "strings", .table [(.text "default_length", .scalar (.whole 10))]),
    (.text "datetimes", .table
      [ (.text "default_zone", .text "start"),
        (.text "output_format", .text "iso") ]) ]

/-- What the settings say about keywords that leave something open. -/
def defaults (s : Settings) : Defaults :=
  ⟨s.defaultLength, s.policy⟩

end Settings

end FixtureKeywords
