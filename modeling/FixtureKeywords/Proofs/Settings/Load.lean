import FixtureKeywords.Proofs.Outcome
import FixtureKeywords.Settings.Load
import Mathlib.Tactic.SplitIfs

/-!
# Settings that were loaded

A check succeeds if all of its parts do. Settings come out of one check of the merged
configuration, and what follows the check only gives them a seed. So what the check of a
field guarantees holds of the settings of every run.
-/
namespace FixtureKeywords
variable {α β : Type}

namespace Checked

theorem both_eq_ok {a : Checked α} {b : Checked β} {x : α} {y : β} :
    a.both b = .ok (x, y) ↔ a = .ok x ∧ b = .ok y := by
  unfold both
  cases a <;> cases b <;> simp

theorem withIssues_eq_ok {a : Checked α} {more : List Issue} {x : α} :
    a.withIssues more = .ok x ↔ a = .ok x ∧ more = [] := by
  unfold withIssues
  cases a <;> cases more <;> simp

end Checked

theorem Field.one_le_of_positive {path : List PathStep} {d : Datum} {n : Int}
    (h : Field.positive path d = .ok n) : 1 ≤ n := by
  unfold positive at h
  split at h
  · cases h
  · split_ifs at h with hn
    · cases h
    · cases h
      exact Int.le_of_not_gt hn

namespace Settings
variable {path : List PathStep} {entries : List (Scalar × Datum)} {name : String} {x default : α}
  {s bare : Settings} {environment others : List (String × String)}

theorem required_eq_ok {check : List PathStep → Datum → Checked α}
    (h : required path entries name check = .ok x) :
    ∃ d, entries.lookup (.text name) = some d ∧ check (path ++ [.key name]) d = .ok x := by
  unfold required at h
  cases hlookup : entries.lookup (.text name) with
  | none =>
      rw [hlookup] at h
      cases h
  | some d =>
      rw [hlookup] at h
      exact ⟨d, rfl, h⟩

theorem optional_eq_ok {check : List PathStep → Datum → Checked α}
    (h : optional path entries name default check = .ok x) :
    (∃ d, entries.lookup (.text name) = some d ∧ check (path ++ [.key name]) d = .ok x) ∨
      entries.lookup (.text name) = none ∧ x = default := by
  unfold optional at h
  cases hlookup : entries.lookup (.text name) with
  | none =>
      rw [hlookup] at h
      exact .inr ⟨rfl, (Except.ok.inj h).symm⟩
  | some d =>
      rw [hlookup] at h
      exact .inl ⟨d, rfl, h⟩

theorem inTable_eq_ok {check : List PathStep → List (Scalar × Datum) → Checked α} {d : Datum}
    (h : inTable check path d = .ok x) : ∃ entries, d = .table entries ∧
      check path entries = .ok x := by
  cases d with
  | scalar value => cases h
  | list items => cases h
  | table entries => exact ⟨entries, rfl, h⟩

theorem section_eq_ok {check : List PathStep → List (Scalar × Datum) → Checked α}
    (h : required path entries name (inTable check) = .ok x) :
    ∃ fields, entries.lookup (.text name) = some (.table fields) ∧
      check (path ++ [.key name]) fields = .ok x := by
  obtain ⟨d, hlookup, hd⟩ := required_eq_ok h
  obtain ⟨fields, rfl, hfields⟩ := inTable_eq_ok hd
  exact ⟨fields, hlookup, hfields⟩

theorem one_le_of_checkStrings {n : Int} (h : checkStrings path entries = .ok n) : 1 ≤ n := by
  obtain ⟨hlength, -⟩ := Checked.withIssues_eq_ok.mp h
  rcases optional_eq_ok hlength with ⟨d, -, hd⟩ | ⟨-, rfl⟩
  · exact Field.one_le_of_positive hd
  · decide

theorem check_eq_ok (h : check entries = .ok s) :
    required [] entries "schema_version" Field.positive = .ok s.schemaVersion ∧
      required [] entries "random" (inTable checkRandom) = .ok (s.seed, s.seedVariable) ∧
      required [] entries "strings" (inTable checkStrings) = .ok s.defaultLength ∧
      required [] entries "datetimes" (inTable checkDatetimes) =
        .ok (s.policy, s.outputFormat) := by
  obtain ⟨⟨⟨version, seed, seedVariable⟩, length, policy, format⟩, hall, rfl⟩ :=
    Outcome.map_eq_ok.mp h
  obtain ⟨hsections, -⟩ := Checked.withIssues_eq_ok.mp hall
  obtain ⟨hfirst, hrest⟩ := Checked.both_eq_ok.mp hsections
  obtain ⟨hversion, hrandom⟩ := Checked.both_eq_ok.mp hfirst
  obtain ⟨hstrings, hdatetimes⟩ := Checked.both_eq_ok.mp hrest
  exact ⟨hversion, hrandom, hstrings, hdatetimes⟩

theorem one_le_of_check (h : check entries = .ok s) : 1 ≤ s.defaultLength := by
  obtain ⟨-, -, hstrings, -⟩ := check_eq_ok h
  obtain ⟨fields, -, hfields⟩ := section_eq_ok hstrings
  exact one_le_of_checkStrings hfields

/-- What the environment says under a name, without the blanks around it. -/
def said (environment : List (String × String)) (name : String) : Text :=
  Text.strip ((environment.lookup name).getD "").toList

theorem withEnvironment_eq : bare.withEnvironment environment =
    if (said environment bare.seedVariable).isEmpty then .ok bare
    else (Seed.ofText (said environment bare.seedVariable)).map fun seed =>
      { bare with seed := some seed } := rfl

theorem withEnvironment_eq_ok : bare.withEnvironment environment = .ok s ↔
    said environment bare.seedVariable = [] ∧ bare = s ∨
      said environment bare.seedVariable ≠ [] ∧
        ∃ seed, Seed.ofText (said environment bare.seedVariable) = .ok seed ∧
          { bare with seed := some seed } = s := by
  rw [withEnvironment_eq]
  split_ifs with hblank
  · rw [List.isEmpty_iff] at hblank
    simp [hblank]
  · rw [List.isEmpty_iff] at hblank
    rw [Outcome.map_eq_ok]
    simp [hblank]

theorem withEnvironment_congr
    (h : others.lookup bare.seedVariable = environment.lookup bare.seedVariable) :
    bare.withEnvironment others = bare.withEnvironment environment := by
  unfold withEnvironment
  rw [h]

theorem defaultLength_of_withEnvironment (h : bare.withEnvironment environment = .ok s) :
    s.defaultLength = bare.defaultLength := by
  rcases withEnvironment_eq_ok.mp h with ⟨-, rfl⟩ | ⟨-, seed, -, rfl⟩ <;> rfl

theorem one_le_of_ofOverrides {overrides : Datum} {environment : List (String × String)}
    (h : ofOverrides overrides environment = .ok s) : 1 ≤ s.defaultLength := by
  obtain ⟨merged, -, h⟩ := Outcome.bind_eq_ok.mp h
  obtain ⟨entries, -, h⟩ := Outcome.bind_eq_ok.mp h
  obtain ⟨bare, hbare, h⟩ := Outcome.bind_eq_ok.mp h
  rw [defaultLength_of_withEnvironment h]
  exact one_le_of_check (Outcome.mapError_eq_ok.mp hbare)

theorem load_some (markup : Text → Except Fault Document) (t : Text)
    (environment : List (String × String)) : load markup (some t) environment =
      markup t >>= fun document => ofOverrides document.datum environment := by
  simp only [load, overridesOf]
  cases markup t <;> rfl

/-- Whatever the file and the environment hold, a string has a character at least. -/
theorem one_le_of_load {markup : Text → Except Fault Document} {file : Option Text}
    {environment : List (String × String)} (h : load markup file environment = .ok s) :
    1 ≤ s.defaultLength := by
  obtain ⟨overrides, -, h⟩ := Outcome.bind_eq_ok.mp h
  exact one_le_of_ofOverrides h

end Settings

end FixtureKeywords
