import FixtureKeywords.Markup.Reading
import FixtureKeywords.Proofs.Settings.Load
import FixtureKeywords.Proofs.Settings.Merge

/-!
# Where settings come from

Every setting has a place in a configuration. A configuration that passes the check has at
each place what makes the setting, or nothing. What a merge has at a place is what the
overrides have there, or else what the packaged configuration has; so a setting is decided by
the overrides at its own place, whatever else they hold. Only the seed may come from the
environment instead, under the name that another setting gives.

A key that leads to no setting is still there after the merge, and the check reports it.
-/
namespace FixtureKeywords

/-- The settings, one by one. -/
inductive Setting where
  | schemaVersion
  | seed
  | seedVariable
  | defaultLength
  | policy
  | outputFormat
deriving DecidableEq, Repr

namespace Setting

def names : Setting → List String
  | schemaVersion => ["schema_version"]
  | seed => ["random", "seed"]
  | seedVariable => ["random", "seed_env"]
  | defaultLength => ["strings", "default_length"]
  | policy => ["datetimes", "default_zone"]
  | outputFormat => ["datetimes", "output_format"]

def Value : Setting → Type
  | schemaVersion => Int
  | seed => Option Seed
  | seedVariable => String
  | defaultLength => Int
  | policy => ZonePolicy
  | outputFormat => String

def check : (f : Setting) → List PathStep → Datum → Checked f.Value
  | schemaVersion => Field.positive
  | seed => Field.seed
  | seedVariable => Field.text
  | defaultLength => Field.positive
  | policy => Field.policy
  | outputFormat => Field.text

def of : (f : Setting) → Settings → f.Value
  | schemaVersion => Settings.schemaVersion
  | seed => Settings.seed
  | seedVariable => Settings.seedVariable
  | defaultLength => Settings.defaultLength
  | policy => Settings.policy
  | outputFormat => Settings.outputFormat

/-- What a setting is without overrides. -/
def standard (f : Setting) : f.Value :=
  f.of ⟨1, none, "DDTGEN_SEED", 10, .start, "iso"⟩

def given? (f : Setting) (d : Datum) : Option Datum :=
  d.get? (f.names.map .text)

/-- A setting is what a configuration gives for it, checked, or else the standard. -/
def Holds (f : Setting) (d : Datum) (v : f.Value) : Prop :=
  match f.given? d with
  | some given => f.check (f.names.map .key) given = .ok v
  | none => v = f.standard

/-- The names lead to a setting, or to where settings are. -/
def Known (names : List String) : Prop :=
  ∃ f : Setting, names <+: f.names

def all : List Setting :=
  [schemaVersion, seed, seedVariable, defaultLength, policy, outputFormat]

theorem mem_all (f : Setting) : f ∈ all := by
  cases f <;> decide

instance : DecidablePred Known := fun names =>
  decidable_of_iff (∃ f ∈ all, names <+: f.names)
    (exists_congr fun f => and_iff_right f.mem_all)

/-- A key that leads to no setting, in a table where settings are. -/
def Stray (names : List String) (key : Scalar) : Prop :=
  (∃ name, Known (names ++ [name])) ∧ ∀ name, key = .text name → ¬ Known (names ++ [name])

variable {f : Setting} {d e : Datum} {v w : f.Value}

theorem names_of_known {names : List String} {name : String} (h : Known (names ++ [name])) :
    names = [] ∨ names = ["random"] ∨ names = ["strings"] ∨ names = ["datetimes"] := by
  obtain ⟨f, rest, hf⟩ := h
  cases names with
  | nil => exact .inl rfl
  | cons first names =>
      cases names with
      | nil => cases f <;> simp_all [Setting.names]
      | cons second names =>
          have hlength := congrArg List.length hf
          cases f <;> simp [Setting.names] at hlength

theorem Holds.unique (hv : f.Holds d v) (hw : f.Holds e w) (h : f.given? d = f.given? e) :
    v = w := by
  unfold Holds at hv hw
  rw [h] at hv
  cases hgiven : f.given? e with
  | some given =>
      simp only [hgiven] at hv hw
      exact Except.ok.inj (hv.symm.trans hw)
  | none =>
      simp only [hgiven] at hv hw
      exact hv.trans hw.symm

theorem holds_congr (h : f.given? d = f.given? e) : f.Holds d v ↔ f.Holds e v := by
  unfold Holds
  rw [h]

theorem given?_packaged (f : Setting) : ∃ s : Scalar,
    f.given? (.table Settings.packaged) = some (.scalar s) ∧
      f.check (f.names.map .key) (.scalar s) = .ok f.standard := by
  cases f with
  | schemaVersion => exact ⟨.whole 1, rfl, rfl⟩
  | seed => exact ⟨.null, rfl, rfl⟩
  | seedVariable => exact ⟨.text "DDTGEN_SEED", rfl, rfl⟩
  | defaultLength => exact ⟨.whole 10, rfl, rfl⟩
  | policy => exact ⟨.text "start", rfl, rfl⟩
  | outputFormat => exact ⟨.text "iso", rfl, rfl⟩

/-- A setting of a merge with the packaged configuration is decided by the overrides. -/
theorem Holds.of_merge (hkeyed : d.Keyed)
    (h : f.Holds (.merge (.table Settings.packaged) d) v) : f.Holds d v := by
  obtain ⟨s, hpackaged, hstandard⟩ := f.given?_packaged
  unfold Holds at h ⊢
  cases hgiven : f.given? d with
  | some given =>
      have hmerged : f.given? (.merge (.table Settings.packaged) d) = some given :=
        calc f.given? (.merge (.table Settings.packaged) d)
          _ = some (Datum.laidOver (f.given? (.table Settings.packaged)) given) :=
            Datum.get?_merge hkeyed hgiven
          _ = some (Datum.merge (.scalar s) given) := by rw [hpackaged]; rfl
          _ = some given := congrArg some (Datum.scalar_merge s given)
      simpa only [hmerged] using h
  | none =>
      cases hmerged : f.given? (.merge (.table Settings.packaged) d) with
      | none => simpa only [hmerged] using h
      | some left =>
          have hleft := Datum.get?_of_get?_merge hkeyed hgiven hmerged
          obtain rfl := Option.some.inj (hleft.symm.trans hpackaged)
          simp only [hmerged] at h
          exact Except.ok.inj (h.symm.trans hstandard)

end Setting

namespace Settings
variable {entries fields : List (Scalar × Datum)} {s bare : Settings}
  {environment others : List (String × String)}

/-! ## Settings that pass the check -/

section
variable {f : Setting} {v : f.Value} {path : List PathStep} {name : String}

theorem holds_of_required (hgiven : f.given? (.table entries) = fields.lookup (.text name))
    (hpath : path ++ [.key name] = f.names.map .key)
    (h : required path fields name f.check = .ok v) : f.Holds (.table entries) v := by
  obtain ⟨d, hlookup, hd⟩ := required_eq_ok h
  unfold Setting.Holds
  rw [hpath] at hd
  simpa only [hgiven, hlookup] using hd

theorem holds_of_optional (hgiven : f.given? (.table entries) = fields.lookup (.text name))
    (hpath : path ++ [.key name] = f.names.map .key)
    (h : optional path fields name f.standard f.check = .ok v) : f.Holds (.table entries) v := by
  unfold Setting.Holds
  rcases optional_eq_ok h with ⟨d, hlookup, hd⟩ | ⟨hlookup, hv⟩
  · rw [hpath] at hd
    simpa only [hgiven, hlookup] using hd
  · simpa only [hgiven, hlookup] using hv

end

theorem holds_of_check (h : check entries = .ok s) (f : Setting) :
    f.Holds (.table entries) (f.of s) := by
  obtain ⟨hversion, hrandom, hstrings, hdatetimes⟩ := check_eq_ok h
  obtain ⟨seeds, hseeds, hrandom⟩ := section_eq_ok hrandom
  obtain ⟨hseed, hvariable⟩ := Checked.both_eq_ok.mp (Checked.withIssues_eq_ok.mp hrandom).1
  obtain ⟨lengths, hlengths, hstrings⟩ := section_eq_ok hstrings
  have hlength := (Checked.withIssues_eq_ok.mp hstrings).1
  obtain ⟨layouts, hlayouts, hdatetimes⟩ := section_eq_ok hdatetimes
  obtain ⟨hpolicy, hformat⟩ := Checked.both_eq_ok.mp (Checked.withIssues_eq_ok.mp hdatetimes).1
  cases f with
  | schemaVersion => exact holds_of_required (Datum.get?_singleton _ _) rfl hversion
  | seed => exact holds_of_optional (Datum.get?_pair hseeds _) rfl hseed
  | seedVariable => exact holds_of_required (Datum.get?_pair hseeds _) rfl hvariable
  | defaultLength => exact holds_of_optional (Datum.get?_pair hlengths _) rfl hlength
  | policy => exact holds_of_required (Datum.get?_pair hlayouts _) rfl hpolicy
  | outputFormat => exact holds_of_optional (Datum.get?_pair hlayouts _) rfl hformat

/-! ## Overrides and the environment -/

theorem get?_of_isNothing {d : Datum} (h : d.isNothing = true) (key : Scalar)
    (place : List Scalar) : d.get? (key :: place) = none := by
  cases d with
  | scalar value => rfl
  | list items => rfl
  | table entries =>
      obtain rfl := List.isEmpty_iff.mp h
      rfl

theorem given?_of_isNothing {d : Datum} (h : d.isNothing = true) (f : Setting) :
    f.given? d = none := by
  cases f <;> exact get?_of_isNothing h _ _

theorem ofOverrides_table (fields : List (Scalar × Datum)) (environment : List (String × String)) :
    ofOverrides (.table fields) environment =
      ofEntries (Datum.mergeEntries packaged fields) >>= withEnvironment environment := by
  unfold ofOverrides
  cases fields <;> rfl

/-- Overrides that lead to settings are a table, or count as an empty one. -/
theorem exists_table {overrides : Datum} (h : ofOverrides overrides environment = .ok s) :
    ∃ fields, (overrides = .table fields ∨ overrides.isNothing = true ∧ fields = []) ∧
      ∀ others, ofOverrides overrides others = ofOverrides (.table fields) others := by
  by_cases hnothing : overrides.isNothing = true
  · refine ⟨[], .inr ⟨hnothing, rfl⟩, fun others => ?_⟩
    unfold ofOverrides
    rw [if_pos hnothing]
    rfl
  · cases overrides with
    | table fields => exact ⟨fields, .inl rfl, fun others => rfl⟩
    | scalar value =>
        unfold ofOverrides at h
        rw [if_neg hnothing] at h
        cases h
    | list items =>
        unfold ofOverrides at h
        rw [if_neg hnothing] at h
        cases h

/-- The settings of overrides are those that the overrides give, before the environment is
asked. -/
theorem exists_bare {overrides : Datum} (hkeyed : overrides.Keyed)
    (h : ofOverrides overrides environment = .ok s) :
    ∃ bare, (∀ f : Setting, f.Holds overrides (f.of bare)) ∧
      ∀ others, ofOverrides overrides others = bare.withEnvironment others := by
  obtain ⟨fields, hfields, hall⟩ := exists_table h
  rw [hall, ofOverrides_table] at h
  obtain ⟨bare, hbare, -⟩ := Outcome.bind_eq_ok.mp h
  refine ⟨bare, fun f => ?_, fun others => ?_⟩
  · have hmerged : f.Holds (.merge (.table packaged) (.table fields)) (f.of bare) :=
      holds_of_check (Outcome.mapError_eq_ok.mp hbare) f
    rcases hfields with rfl | ⟨hnothing, rfl⟩
    · exact hmerged.of_merge hkeyed
    · have hsame : f.given? overrides = f.given? (.table []) := by
        rw [given?_of_isNothing hnothing, given?_of_isNothing rfl]
      exact (Setting.holds_congr hsame).mpr (hmerged.of_merge Datum.keyed_nil)
  · rw [hall, ofOverrides_table, hbare]
    rfl

/-- Settings that come from overrides and an environment, each from its own place. -/
structure ComesFrom (overrides : Datum) (environment : List (String × String)) (s : Settings) :
    Prop where
  own : ∀ f : Setting, f ≠ .seed → f.Holds overrides (f.of s)
  seed : if said environment s.seedVariable = [] then Setting.seed.Holds overrides s.seed
    else (Seed.ofText (said environment s.seedVariable)).map some = .ok s.seed

theorem ComesFrom.of_withEnvironment {overrides : Datum}
    (hbare : ∀ f : Setting, f.Holds overrides (f.of bare))
    (h : bare.withEnvironment environment = .ok s) :
    s.seedVariable = bare.seedVariable ∧ ComesFrom overrides environment s := by
  rcases withEnvironment_eq_ok.mp h with ⟨hblank, rfl⟩ | ⟨hsaid, seed, hseed, rfl⟩
  · refine ⟨rfl, fun f _ => hbare f, ?_⟩
    rw [if_pos hblank]
    exact hbare .seed
  · refine ⟨rfl, fun f hf => ?_, ?_⟩
    · cases f with
      | seed => exact absurd rfl hf
      | _ => exact hbare _
    · rw [if_neg hsaid, hseed]
      rfl

theorem ComesFrom.unique {overrides changed : Datum} {t : Settings}
    (hs : ComesFrom overrides environment s) (ht : ComesFrom changed others t) {f : Setting}
    (hgiven : f.given? changed = f.given? overrides)
    (hsaid : f = .seed → said others t.seedVariable = said environment s.seedVariable) :
    f.of t = f.of s := by
  by_cases hf : f = .seed
  · subst hf
    have hseed := hs.seed
    have hother := ht.seed
    rw [hsaid rfl] at hother
    split_ifs at hseed hother with hblank
    · exact hother.unique hseed hgiven
    · exact Except.ok.inj (hother.symm.trans hseed)
  · exact (ht.own f hf).unique (hs.own f hf) hgiven

/-! ## Keys that lead to no setting -/

section
variable {α β : Type} {name : String} {key : Scalar}

theorem issues_both (a : Checked α) (b : Checked β) :
    (a.both b).issues = a.issues ++ b.issues := by
  cases a <;> cases b <;> rfl

theorem issues_withIssues (a : Checked α) (more : List Issue) :
    (a.withIssues more).issues = a.issues ++ more := by
  cases a <;> cases more <;> rfl

theorem mem_issues_withIssues {a : Checked α} {more : List Issue} {issue : Issue}
    (h : issue ∈ more) : issue ∈ (a.withIssues more).issues := by
  rw [issues_withIssues]
  exact List.mem_append_right _ h

theorem issues_map (a : Checked α) (f : α → β) : Checked.issues (a.map f) = a.issues := by
  cases a <;> rfl

theorem exists_error_of_mem_issues {a : Checked α} {issue : Issue} (h : issue ∈ a.issues) :
    ∃ issues, a = .error issues ∧ issue ∈ issues := by
  cases a with
  | ok x => cases h
  | error issues => exact ⟨issues, rfl, h⟩

theorem issues_section {check : List PathStep → List (Scalar × Datum) → Checked α}
    (h : entries.lookup (.text name) = some (.table fields)) (path : List PathStep) :
    (required path entries name (inTable check)).issues =
      (check (path ++ [.key name]) fields).issues := by
  unfold required
  rw [h]
  rfl

/-- What is reported of a key that leads to no setting. -/
def strayIssue (path : List PathStep) (key : Scalar) : Issue :=
  ⟨path ++ [keyStep key], if (Datum.scalar key).asText?.isSome then .unknownKey else .keyNotText⟩

theorem strayIssue_mem_unknownKeys {names known : List String} (hstray : Setting.Stray names key)
    (hknown : ∀ name ∈ known, Setting.Known (names ++ [name]))
    (hkey : key ∈ fields.map Prod.fst) :
    strayIssue (names.map .key) key ∈ unknownKeys (names.map .key) known fields := by
  obtain ⟨⟨key, value⟩, hentry, rfl⟩ := List.mem_map.mp hkey
  refine List.mem_filterMap.mpr ⟨(key, value), hentry, ?_⟩
  cases key with
  | text name =>
      have hnot : ¬ known.contains name = true := fun hmem =>
        hstray.2 name rfl (hknown name (List.contains_iff_mem.mp hmem))
      exact if_neg hnot
  | _ => rfl

theorem issues_check (entries : List (Scalar × Datum)) : (check entries).issues =
    ((required [] entries "schema_version" Field.positive).issues ++
      (required [] entries "random" (inTable checkRandom)).issues ++
        ((required [] entries "strings" (inTable checkStrings)).issues ++
          (required [] entries "datetimes" (inTable checkDatetimes)).issues)) ++
      unknownKeys [] ["schema_version", "random", "strings", "datetimes"] entries := by
  unfold check
  rw [issues_map, issues_withIssues, issues_both, issues_both, issues_both]

theorem strayIssue_mem_section {check : List PathStep → List (Scalar × Datum) → Checked α}
    {known : List String} (hcheck : ∀ path fields issue, issue ∈ unknownKeys path known fields →
      issue ∈ (check path fields).issues)
    (hstray : Setting.Stray [name] key)
    (hknown : ∀ other ∈ known, Setting.Known ([name] ++ [other]))
    (hfields : (Datum.table entries).get? [.text name] = some (.table fields))
    (hkey : key ∈ fields.map Prod.fst) :
    strayIssue [.key name] key ∈ (required [] entries name (inTable check)).issues := by
  rw [issues_section ((Datum.get?_singleton _ _).symm.trans hfields)]
  exact hcheck _ _ _ (strayIssue_mem_unknownKeys hstray hknown hkey)

theorem strayIssue_mem_check {names : List String} (hstray : Setting.Stray names key)
    (hfields : (Datum.table entries).get? (names.map .text) = some (.table fields))
    (hkey : key ∈ fields.map Prod.fst) :
    strayIssue (names.map .key) key ∈ (check entries).issues := by
  obtain ⟨name, hname⟩ := hstray.1
  rw [issues_check]
  simp only [List.mem_append]
  rcases Setting.names_of_known hname with rfl | rfl | rfl | rfl
  · obtain rfl : entries = fields := Datum.table.inj (Option.some.inj hfields)
    exact .inr (strayIssue_mem_unknownKeys hstray (by decide) hkey)
  · exact .inl (.inl (.inr (strayIssue_mem_section
      (fun _ _ _ => mem_issues_withIssues) hstray (by decide) hfields hkey)))
  · exact .inl (.inr (.inl (strayIssue_mem_section
      (fun _ _ _ => mem_issues_withIssues) hstray (by decide) hfields hkey)))
  · exact .inl (.inr (.inr (strayIssue_mem_section
      (fun _ _ _ => mem_issues_withIssues) hstray (by decide) hfields hkey)))

theorem exists_packaged {names : List String} {name : String}
    (h : Setting.Known (names ++ [name])) :
    ∃ below, (Datum.table packaged).get? (names.map .text) = some (.table below) := by
  rcases Setting.names_of_known h with rfl | rfl | rfl | rfl <;> exact ⟨_, rfl⟩

/-- Overrides with a key that leads to no setting are refused, and the key is named. -/
theorem ofOverrides_of_stray {overrides : Datum} (hkeyed : overrides.Keyed) {names : List String}
    (hstray : Setting.Stray names key)
    (hfields : overrides.get? (names.map .text) = some (.table fields))
    (hkey : key ∈ fields.map Prod.fst) (environment : List (String × String)) :
    ∃ issues, ofOverrides overrides environment = .error (.configuration issues) ∧
      strayIssue (names.map .key) key ∈ issues := by
  obtain ⟨entries, rfl⟩ : ∃ entries, overrides = .table entries := by
    cases overrides with
    | table entries => exact ⟨entries, rfl⟩
    | scalar value => cases names <;> cases hfields
    | list items => cases names <;> cases hfields
  obtain ⟨name, hname⟩ := hstray.1
  obtain ⟨below, hbelow⟩ := exists_packaged hname
  have hmerged : (Datum.table (Datum.mergeEntries packaged entries)).get? (names.map .text) =
      some (.table (Datum.mergeEntries below fields)) := by
    have hover : (Datum.merge (.table packaged) (.table entries)).get? (names.map .text) = _ :=
      Datum.get?_merge hkeyed hfields
    rwa [hbelow] at hover
  obtain ⟨issues, hissues, hmem⟩ := exists_error_of_mem_issues
    (strayIssue_mem_check hstray hmerged ((Datum.mem_keys_mergeEntries key).mpr (.inr hkey)))
  refine ⟨issues, ?_, hmem⟩
  rw [ofOverrides_table, ofEntries, hissues]
  rfl

end

end Settings

end FixtureKeywords
