import FixtureKeywords.Settings.Check

/-!
# Loading settings

Settings come from three places: the packaged configuration, a file laid over it,
and an environment variable that gives the seed. The name of that variable is a
setting itself. A blank variable gives nothing.

A file that holds nothing, or another datum that counts as nothing, changes
nothing; any other file has to hold a table.
-/

namespace FixtureKeywords

def Datum.isNothing : Datum → Bool
  | .scalar .null => true
  | .scalar (.truth b) => !b
  | .scalar (.whole n) => n == 0
  | .scalar (.floating x) => x.isZero
  | .scalar (.text s) => s.isEmpty
  | .scalar (.binary _ encoded) => encoded == some ""
  | .list items => items.isEmpty
  | .table entries => entries.isEmpty
  | _ => false

namespace Settings

/-- The settings with what the environment says about the seed. -/
def withEnvironment (environment : List (String × String)) (s : Settings) :
    Except Fault Settings :=
  let raw := Text.strip ((environment.lookup s.seedVariable).getD "").toList
  if raw.isEmpty then .ok s
  else (Seed.ofText raw).map fun seed => { s with seed := some seed }

def ofOverrides (overrides : Datum) (environment : List (String × String)) :
    Except Fault Settings := do
  let upper := if overrides.isNothing then .table [] else overrides
  let merged ← (← Datum.mergeTable packaged upper).entries
  (← ofEntries merged).withEnvironment environment

/-- What a file lays over the packaged configuration, by a reader for the notation that
the file is in. -/
def overridesOf (markup : Text → Except Fault Document) : Option Text → Except Fault Datum
  | some t => (markup t).map Document.datum
  | none => .ok (.table [])

/-- The settings of a run, from the text of a file if there is one. -/
def load (markup : Text → Except Fault Document) (file : Option Text)
    (environment : List (String × String)) : Except Fault Settings := do
  ofOverrides (← overridesOf markup file) environment

end Settings

end FixtureKeywords
