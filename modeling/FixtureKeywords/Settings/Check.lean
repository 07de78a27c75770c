import FixtureKeywords.Settings.Field
import FixtureKeywords.Settings.Merge

/-!
# Checking a configuration

A configuration is a table of sections. All that is wrong is collected: section by
section and field by field in the order of the settings, then the unknown keys of
a table in its own order.
-/

namespace FixtureKeywords

namespace Checked

/-- Checks one thing and then another; the issues of both are collected. -/
def both (a : Checked α) (b : Checked β) : Checked (α × β) :=
  match a, b with
  | .ok a, .ok b => .ok (a, b)
  | a, b => .error (a.issues ++ b.issues)

def withIssues (a : Checked α) (more : List Issue) : Checked α :=
  match a, more with
  | .ok a, [] => .ok a
  | a, more => .error (a.issues ++ more)

end Checked

namespace Settings

/-- How a key that is no text is named. -/
def keyStep (key : Scalar) : PathStep :=
  match key with
  | .text s => .key s
  | .whole n =>
      if -(Nat.pow 2 63 : Int) ≤ n ∧ n < Nat.pow 2 63 then .number n else .key (toString n)
  | .truth b => .number (if b then 1 else 0)
  | other => .key other.quoted

def unknownKeys (path : List PathStep) (known : List String) (entries : List (Scalar × Datum)) :
    List Issue :=
  entries.filterMap fun (key, _) =>
    match key with
    | .text s => if known.contains s then none else some ⟨path ++ [.key s], .unknownKey⟩
    | other => some ⟨path ++ [keyStep other], .keyNotText⟩

def required (path : List PathStep) (entries : List (Scalar × Datum)) (name : String)
    (check : List PathStep → Datum → Checked α) : Checked α :=
  match entries.lookup (.text name) with
  | some d => check (path ++ [.key name]) d
  | none => .fail (path ++ [.key name]) .missing

/-- Checks the entry under a name, or takes a value if it is not there. -/
def optional (path : List PathStep) (entries : List (Scalar × Datum)) (name : String)
    (default : α) (check : List PathStep → Datum → Checked α) : Checked α :=
  match entries.lookup (.text name) with
  | some d => check (path ++ [.key name]) d
  | none => .ok default

def inTable (check : List PathStep → List (Scalar × Datum) → Checked α)
    (path : List PathStep) (d : Datum) : Checked α :=
  match d with
  | .table entries => check path entries
  | _ => .fail path .notATable

def checkRandom (path : List PathStep) (entries : List (Scalar × Datum)) :
    Checked (Option Seed × String) :=
  ((optional path entries "seed" none Field.seed).both
    (required path entries "seed_env" Field.text)).withIssues
    (unknownKeys path ["seed", "seed_env"] entries)

def checkStrings (path : List PathStep) (entries : List (Scalar × Datum)) : Checked Int :=
  (optional path entries "default_length" StringGenerator.usualLength Field.positive).withIssues
    (unknownKeys path ["default_length"] entries)

def checkDatetimes (path : List PathStep) (entries : List (Scalar × Datum)) :
    Checked (ZonePolicy × String) :=
  ((required path entries "default_zone" Field.policy).both
    (optional path entries "output_format" "iso" Field.text)).withIssues
    (unknownKeys path ["default_zone", "output_format"] entries)

/-- Checks a whole configuration. -/
def check (entries : List (Scalar × Datum)) : Checked Settings :=
  let version := required [] entries "schema_version" Field.positive
  let random := required [] entries "random" (inTable checkRandom)
  let strings := required [] entries "strings" (inTable checkStrings)
  let datetimes := required [] entries "datetimes" (inTable checkDatetimes)
  let all := ((version.both random).both (strings.both datetimes)).withIssues
    (unknownKeys [] ["schema_version", "random", "strings", "datetimes"] entries)
  all.map fun ((version, seed, seedVariable), (length, policy, format)) =>
    ⟨version, seed, seedVariable, length, policy, format⟩

/-- The settings of a whole configuration. -/
def ofEntries (entries : List (Scalar × Datum)) : Except Fault Settings :=
  (check entries).mapError .configuration

end Settings

end FixtureKeywords
