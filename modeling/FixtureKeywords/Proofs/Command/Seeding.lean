import FixtureKeywords.Proofs.Command.Loading
import FixtureKeywords.Proofs.Command.Run
import FixtureKeywords.Proofs.Random.SeedText

/-!
# Where the seed of a run comes from

A text may be given as the seed on the command line, or in the environment under the name
that the configuration has for it. In both places it is read alike, and it replaces the seed
of the file. So a run comes to the same report whichever of the two places has the text.

Where both have one, that of the command line counts. But the configuration is loaded before
it is looked at, and the text in the environment is read then. A numeral of too many digits
there ends the run, as it does without a seed on the command line.
-/
namespace FixtureKeywords

def World.inEnvironment (world : World) (environment : List (String × String)) : World :=
  { world with environment }

namespace Settings
variable {s : Settings} {environment : List (String × String)} {seed : Seed}

theorem withEnvironment_nil (s : Settings) : s.withEnvironment [] = pure s := rfl

theorem ofOverrides_eq_bind (overrides : Datum) (environment : List (String × String)) :
    ofOverrides overrides environment =
      ofOverrides overrides [] >>= withEnvironment environment := by
  simp only [ofOverrides, bind_assoc, withEnvironment_nil, pure_bind]

theorem load_eq_bind (markup : Text → Except Fault Document) (file : Option Text)
    (environment : List (String × String)) :
    load markup file environment = load markup file [] >>= withEnvironment environment := by
  simp only [load, bind_assoc, ← ofOverrides_eq_bind]

theorem said_of_lookup {name : String} {raw : Text}
    (h : environment.lookup name = some (String.ofList raw)) :
    said environment name = Text.strip raw := by
  rw [said, h, Option.getD_some, String.toList_ofList]

/-- An environment that says nothing leaves the settings, and one that says a seed gives it. -/
theorem exists_withEnvironment (h : Seed.ofText (said environment s.seedVariable) = .ok seed) :
    ∃ given, s.withEnvironment environment = .ok { s with seed := given } := by
  by_cases hblank : said environment s.seedVariable = []
  · exact ⟨s.seed, withEnvironment_eq_ok.mpr (.inl ⟨hblank, rfl⟩)⟩
  · exact ⟨some seed, withEnvironment_eq_ok.mpr (.inr ⟨hblank, seed, h, rfl⟩)⟩

theorem withEnvironment_eq_error {fault : Fault}
    (h : Seed.ofText (said environment s.seedVariable) = .error fault) :
    s.withEnvironment environment = .error fault := by
  have hsaid : said environment s.seedVariable ≠ [] := by
    intro hblank
    rw [hblank] at h
    cases h
  rw [withEnvironment_eq, if_neg (by simpa using hsaid), h]
  rfl

end Settings

namespace Command
open Settings (said)

section
variable {words : List Text}

theorem last?_withOption (p : Parts) (o other : OptionName) (value : Text) :
    (p.withOption o value).last? other =
      (p.last? other).or (if other = o then some value else none) := by
  unfold Parts.last? Parts.withOption
  rw [List.reverse_cons, List.lookup_append]
  split_ifs with h
  · simp [h]
  · simp [List.lookup, beq_false_of_ne h]

theorem parts?_seed (raw : Text) (words : List Text) :
    parts? OptionName.ofLong? OptionName.ofShort? ("--seed".toList :: raw :: words) =
      (parts? OptionName.ofLong? OptionName.ofShort? words).map (Parts.withOption .seed raw) := by
  have hword : classify? OptionName.ofLong? OptionName.ofShort? "--seed".toList =
      some (.wanting [] .seed) := by
    decide
  rw [parts?, hword]
  rfl

/-- A request is written with a seed in front of its words. It counts if there is no other. -/
theorem generateRequest?_seed (raw : Text) (words : List Text) :
    generateRequest? ("--seed".toList :: raw :: words) =
      (generateRequest? words).map fun request =>
        { request with seed := request.seed.or (some raw) } := by
  unfold generateRequest?
  rw [parts?_seed]
  cases parts? OptionName.ofLong? OptionName.ofShort? words with
  | none => rfl
  | some p =>
      have hpositionals : (p.withOption .seed raw).positionals = p.positionals := rfl
      simp only [Option.map_some, Option.bind_some, Option.bind_eq_bind, hpositionals,
        last?_withOption, reduceCtorEq, if_false, if_true, Option.or_none]
      cases p.positionals with
      | nil => rfl
      | cons keyword more =>
          cases more with
          | cons other more => rfl
          | nil =>
              cases p.last? .count with
              | none => rfl
              | some written =>
                  dsimp only
                  rw [Option.map_bind]
                  rfl

theorem read?_generate (words : List Text) :
    read? ("generate".toList :: words) = (generateRequest? words).map generate := rfl

/-- A command that gives no seed is written with one in front of its words. -/
theorem read?_seed {request : GenerateRequest} (raw : Text)
    (h : read? ("generate".toList :: words) = some (.generate request))
    (hseed : request.seed = none) :
    read? ("generate".toList :: "--seed".toList :: raw :: words) =
      some (.generate { request with seed := some raw }) := by
  rw [read?_generate] at h
  obtain ⟨_, hrequest, ⟨⟩⟩ := Option.map_eq_some_iff.mp h
  rw [read?_generate, generateRequest?_seed, hrequest]
  simp only [Option.map_some, hseed, Option.none_or]

end

section
variable {world : World} {request : GenerateRequest}
  {environment : List (String × String)} {bare s : Settings} {raw : Text} {seed : Seed}

/-- The settings of a run are those of its file, with what the environment says. -/
theorem settings_inEnvironment (world : World) (config : Option Text)
    (environment : List (String × String)) :
    settings (world.inEnvironment environment) config =
      settings (world.inEnvironment []) config >>= Settings.withEnvironment environment := by
  unfold settings
  simp only [bind_assoc, World.inEnvironment, ← Settings.load_eq_bind]

theorem configured_asked (hbare : settings (world.inEnvironment []) request.config = .ok bare)
    (hsaid : ∃ seed, Seed.ofText (said environment bare.seedVariable) = .ok seed)
    (hraw : Seed.ofText raw = .ok seed) :
    configured (world.inEnvironment environment) { request with seed := some raw } =
      .ok { bare with seed := some seed } := by
  obtain ⟨other, hother⟩ := hsaid
  obtain ⟨given, hgiven⟩ := Settings.exists_withEnvironment hother
  have hsettings : settings (world.inEnvironment environment) request.config =
      .ok { bare with seed := given } := by
    rw [settings_inEnvironment, hbare]
    exact hgiven
  refine Outcome.bind_eq_ok.mpr ⟨_, hsettings, ?_⟩
  simp only [withSeed, hraw]
  rfl

theorem configured_silent (hbare : settings (world.inEnvironment []) request.config = .ok bare)
    (hset : environment.lookup bare.seedVariable = some (String.ofList raw))
    (hblank : Text.strip raw ≠ []) (hraw : Seed.ofText raw = .ok seed)
    (hseed : request.seed = none) :
    configured (world.inEnvironment environment) request =
      .ok { bare with seed := some seed } := by
  have hsaid := Settings.said_of_lookup hset
  have hgiven : bare.withEnvironment environment = .ok { bare with seed := some seed } := by
    refine Settings.withEnvironment_eq_ok.mpr (.inr ⟨hsaid ▸ hblank, seed, ?_, rfl⟩)
    rw [hsaid, Seed.ofText_strip, hraw]
  have hsettings : settings (world.inEnvironment environment) request.config =
      .ok { bare with seed := some seed } := by
    rw [settings_inEnvironment, hbare]
    exact hgiven
  refine Outcome.bind_eq_ok.mpr ⟨_, hsettings, ?_⟩
  rw [hseed]
  rfl

variable [Almanac]

/-- A numeral in the environment that is too long ends the run, whatever its request says
about the seed. -/
theorem run_unreadable {fault : Fault}
    (hbare : settings (world.inEnvironment []) request.config = .ok bare)
    (hsaid : Seed.ofText (said environment bare.seedVariable) = .error fault) :
    ∃ message, ∀ given : Option Text,
      run (world.inEnvironment environment) (.generate { request with seed := given }) =
        ⟨[], [], .exit 4 (some message)⟩ := by
  have hfails : settings (world.inEnvironment environment) request.config = .error fault := by
    rw [settings_inEnvironment, hbare]
    exact Settings.withEnvironment_eq_error hsaid
  obtain ⟨digits, -, -, -, rfl⟩ := Seed.ofText_eq_error_iff.mp hsaid
  obtain ⟨message, -, hending⟩ := told_numeralTooLong digits.length
  refine ⟨message, fun given => ?_⟩
  have hrun : run (world.inEnvironment environment) (.generate { request with seed := given }) =
      ⟨[], [], loadEnding (.numeralTooLong digits.length)⟩ := run_unloaded hfails
  rw [hrun, hending]

/-- A run that has its configuration does not end as one that cannot load it. -/
theorem run_ne_exit_four (h : configured world request = .ok s) (message : Option String) :
    (run world (.generate request)).ending ≠ .exit 4 message := by
  rw [run_generate h]
  exact (endsAfter_printValues world request s).ne_exit_four message

theorem printRounds_inEnvironment (environment : List (String × String)) (keyword : Text)
    (s : Settings) (source : Twister) (rounds : List Surroundings) :
    printRounds (world.inEnvironment environment) keyword s source rounds =
      printRounds world keyword s source rounds := by
  have hprinted (value : Value) :
      printed (world.inEnvironment environment) s value = printed world s value := rfl
  induction rounds generalizing source with
  | nil => rfl
  | cons around rounds ih => simp only [printRounds, hprinted, ih]

/-- The environment says a seed that can be read, if it says one: a blank is read as well, as a
text without characters, though it gives no seed. -/
def SeedReadable (world : World) (config : Option Text) (environment : List (String × String)) :
    Prop :=
  ∀ s, settings (world.inEnvironment []) config = .ok s →
    ∃ seed, Seed.ofText (said environment s.seedVariable) = .ok seed

/-- The environment has a text under the name that the configuration has for the seed. -/
def SetsSeed (world : World) (config : Option Text) (environment : List (String × String))
    (raw : Text) : Prop :=
  ∀ s, settings (world.inEnvironment []) config = .ok s →
    environment.lookup s.seedVariable = some (String.ofList raw)

variable {others : List (String × String)}

theorem run_asked (hseed : request.seed = none) (hblank : Text.strip raw ≠ [])
    (hraw : Seed.ofText raw = .ok seed) (hset : SetsSeed world request.config others raw)
    (hreadable : SeedReadable world request.config environment) :
    run (world.inEnvironment environment) (.generate { request with seed := some raw }) =
      run (world.inEnvironment others) (.generate request) := by
  cases hbare : settings (world.inEnvironment []) request.config with
  | ok bare =>
      rw [run_generate (configured_asked hbare (hreadable bare hbare) hraw),
        run_generate (configured_silent hbare (hset bare hbare) hblank hraw hseed)]
      simp only [printValues, printRounds_inEnvironment]
      rfl
  | error fault =>
      have hfails (environment : List (String × String)) :
          settings (world.inEnvironment environment) request.config = .error fault := by
        rw [settings_inEnvironment, hbare]
        rfl
      simp only [run, runGenerate, runRounds, hfails]

theorem run_asked_unreadable (hseed : request.seed = none) (hblank : Text.strip raw ≠ [])
    (hraw : Seed.ofText raw = .ok seed) (hset : SetsSeed world request.config others raw)
    (hreadable : ¬ SeedReadable world request.config environment) :
    ∃ message,
      run (world.inEnvironment environment) (.generate { request with seed := some raw }) =
        ⟨[], [], .exit 4 (some message)⟩ ∧
      run (world.inEnvironment environment) (.generate request) =
        ⟨[], [], .exit 4 (some message)⟩ ∧
      (run (world.inEnvironment others) (.generate request)).ending ≠ .exit 4 (some message) := by
  obtain ⟨bare, hunread⟩ := not_forall.mp hreadable
  obtain ⟨hbare, hnone⟩ := Classical.not_imp.mp hunread
  cases hsaid : Seed.ofText (said environment bare.seedVariable) with
  | ok seed => exact absurd ⟨seed, hsaid⟩ hnone
  | error fault =>
      obtain ⟨message, hrun⟩ := run_unreadable hbare hsaid
      exact ⟨message, hrun (some raw), hrun request.seed,
        run_ne_exit_four (configured_silent hbare (hset bare hbare) hblank hraw hseed) _⟩

end

end Command

end FixtureKeywords
