import FixtureKeywords.Calendar.Layout
import FixtureKeywords.Command.Run
import FixtureKeywords.Markup.Reading
import FixtureKeywords.Proofs.Settings.Load
import FixtureKeywords.Zone.Recorded

/-!
# Loading that fails

A run of `generate` that cannot load its configuration is to end with code 4 and a message.
Its handler tells an invalid configuration, an unsuitable value, and a fault of the operating
system. The wrong shape of a section and a wrong entry are invalid configurations, and a seed
from the environment can only be too long, which makes it unsuitable.

So what the run lays over the packaged configuration decides. It is told where the file cannot
be opened, or has an unsuitable value. Any other fault of its reader breaks the run off, and so
does a document that is neither a table nor counts as nothing.
-/
namespace FixtureKeywords
open Outcome

/-- A datum that can be laid over a configuration: a table, or what counts as nothing. -/
def Datum.isOverlay (d : Datum) : Bool :=
  d.isNothing || match d with
    | .table _ => true
    | _ => false

namespace Command

/-- A fault in loading that a run tells before it ends. -/
def Told (fault : Fault) : Prop :=
  ∃ message, message ≠ "" ∧ loadEnding fault = .exit 4 (some message)

theorem endsLine_of_isDigit {c : Char} (h : c.isDigit) : endsLine c = false := by
  simp only [Char.isDigit, Bool.and_eq_true, decide_eq_true_eq, UInt32.le_iff_toNat_le,
    Char.reduceVal, UInt32.reduceToNat] at h
  simp only [endsLine, Char.toNat, List.mem_cons, List.not_mem_nil, or_false,
    decide_eq_false_iff_not]
  omega

def hasFirstLine (message : String) : Bool :=
  message.toList.head?.any fun c => !endsLine c

theorem hasFirstLine_append {words : String} (h : hasFirstLine words) (more : String) :
    hasFirstLine (words ++ more) := by
  unfold hasFirstLine at h ⊢
  rw [String.toList_append]
  cases hwords : words.toList with
  | nil =>
      rw [hwords] at h
      cases h
  | cons c rest => rwa [hwords] at h

theorem hasFirstLine_sentence {words : String} (h : hasFirstLine words) (filled more : String) :
    hasFirstLine (words ++ filled ++ more) :=
  hasFirstLine_append (hasFirstLine_append h filled) more

theorem hasFirstLine_toString (n : Nat) : hasFirstLine (toString n) := by
  unfold hasFirstLine
  have hdigits : (toString n).toList = Nat.toDigits 10 n := Nat.toList_repr
  rw [hdigits]
  cases hd : Nat.toDigits 10 n with
  | nil => exact absurd hd Nat.toDigits_ne_nil
  | cons c rest =>
      have hc : c.isDigit :=
        Nat.isDigit_of_mem_toDigits (by decide) (by decide) (hd ▸ List.mem_cons_self)
      rw [List.head?_cons, Option.any_some, endsLine_of_isDigit hc]
      rfl

theorem told_of_message {fault : Fault} {message : String}
    (h : loadMessage? fault = some message) (hline : hasFirstLine message) : Told fault := by
  unfold hasFirstLine at hline
  cases hmessage : message.toList with
  | nil =>
      rw [hmessage] at hline
      cases hline
  | cons c rest =>
      have hc : (!endsLine c) = true := by rwa [hmessage] at hline
      refine ⟨String.ofList (c :: rest.takeWhile fun c => !endsLine c), ?_, ?_⟩
      · exact fun hnone => List.cons_ne_nil c _ (String.ofList_injective hnone)
      · unfold loadEnding
        rw [h, Option.map_some, hmessage]
        dsimp only
        rw [List.takeWhile_cons_of_pos (p := fun c => !endsLine c) hc]
        rfl

theorem hasFirstLine_message (cause : ScalarFault) : hasFirstLine cause.message := by
  cases cause with
  | noDigits base => exact hasFirstLine_sentence (by decide) _ _
  | offsetTooLarge seconds => exact hasFirstLine_sentence (by decide) _ _
  | yearOutOfRange year => exact hasFirstLine_sentence (by decide) _ _
  | _ => decide

theorem told_configuration (issues : List Issue) : Told (.configuration issues) := by
  refine told_of_message rfl ?_
  exact hasFirstLine_sentence (hasFirstLine_append (hasFirstLine_toString _) _) _ _

theorem told_numeralTooLong (digits : Nat) : Told (.numeralTooLong digits) :=
  told_of_message rfl (hasFirstLine_sentence (by decide) _ _)

theorem told_scalar (cause : ScalarFault) : Told (.scalar cause) :=
  told_of_message rfl (hasFirstLine_message cause)

theorem told_system (cause : SystemFault) : Told (.system cause) := by
  refine told_of_message rfl ?_
  unfold SystemFault.message
  have hfront : hasFirstLine s!"[Errno {cause.number}] {cause.reason}" :=
    hasFirstLine_append (hasFirstLine_sentence (by decide) _ _) _
  split
  · exact hasFirstLine_sentence hfront _ _
  · exact hfront

end Command

namespace Settings

theorem meets_withEnvironment (environment : List (String × String)) (s : Settings) :
    Meets (fun _ => True) Command.Told (s.withEnvironment environment) := by
  unfold withEnvironment
  dsimp only
  split_ifs
  · trivial
  · refine Meets.map (Q := fun _ => True) ?_ fun _ _ => trivial
    unfold Seed.ofText
    dsimp only
    split
    next numeral _ =>
      cases numeral.read with
      | error long => exact Command.told_numeralTooLong _
      | ok n => trivial
    next => trivial

theorem meets_ofEntries (entries : List (Scalar × Datum)) :
    Meets (fun _ => True) Command.Told (ofEntries entries) := by
  unfold ofEntries
  cases check entries with
  | error issues => exact Command.told_configuration issues
  | ok s => trivial

/-- What is laid over the packaged configuration can only make it invalid. -/
theorem meets_ofOverrides {overrides : Datum} (h : overrides.isOverlay = true)
    (environment : List (String × String)) :
    Meets (fun _ => True) Command.Told (ofOverrides overrides environment) := by
  obtain ⟨entries, hupper⟩ : ∃ entries,
      (if overrides.isNothing then .table [] else overrides) = Datum.table entries := by
    split_ifs with hnothing
    · exact ⟨[], rfl⟩
    · cases overrides with
      | table entries => exact ⟨entries, rfl⟩
      | scalar value => simp [Datum.isOverlay, hnothing] at h
      | list items => simp [Datum.isOverlay, hnothing] at h
  unfold ofOverrides
  rw [hupper]
  exact (meets_ofEntries _).bind fun s _ => meets_withEnvironment environment s

theorem ofOverrides_eq_error {overrides : Datum} (h : overrides.isOverlay = false)
    (environment : List (String × String)) :
    ofOverrides overrides environment = .error .notATable := by
  obtain ⟨hnothing, hshape⟩ := Bool.or_eq_false_iff.mp h
  unfold ofOverrides
  dsimp only
  rw [hnothing]
  cases overrides with
  | table entries => cases hshape
  | scalar value => rfl
  | list items => rfl

end Settings

namespace Command

/-- What a run lays over the packaged configuration. -/
def overlay (world : World) (config : Option Text) : Except Fault Datum := do
  let file ← config.mapM fun path => world.files (String.ofList (plainPath path))
  Settings.overridesOf world.markup file

theorem settings_eq_bind (world : World) (config : Option Text) :
    settings world config = overlay world config >>= fun overrides =>
      Settings.ofOverrides overrides world.environment := by
  unfold settings overlay Settings.load
  rw [bind_assoc]

theorem settings_of_unread {world : World} {config : Option Text} {fault : Fault}
    (h : overlay world config = .error fault) : settings world config = .error fault := by
  rw [settings_eq_bind, h]
  rfl

theorem settings_of_shapeless {world : World} {config : Option Text} {overrides : Datum}
    (hshape : overrides.isOverlay = false) (h : overlay world config = .ok overrides) :
    settings world config = .error .notATable := by
  rw [settings_eq_bind, h]
  exact Settings.ofOverrides_eq_error hshape world.environment

section
variable [Almanac] {world : World} {request : GenerateRequest}

/-- A run obtains its settings, or ends with code 4 and a message. -/
def Reports (world : World) (request : GenerateRequest) : Prop :=
  (∃ s, settings world request.config = .ok s) ∨
    ∃ message, message ≠ "" ∧
      run world (.generate request) = ⟨[], [], .exit 4 (some message)⟩

theorem run_unloaded {fault : Fault} (h : settings world request.config = .error fault) :
    run world (.generate request) = ⟨[], [], loadEnding fault⟩ := by
  simp only [run, runGenerate, runRounds, h]

theorem told_of_reports {fault : Fault} (h : settings world request.config = .error fault)
    (hreports : Reports world request) : Told fault := by
  rcases hreports with ⟨s, hs⟩ | ⟨message, hmessage, hrun⟩
  · cases h.symm.trans hs
  · exact ⟨message, hmessage, congrArg RunReport.ending ((run_unloaded h).symm.trans hrun)⟩

theorem reports_of_meets
    (h : Meets (fun _ => True) Told (settings world request.config)) : Reports world request := by
  cases hs : settings world request.config with
  | ok s => exact .inl ⟨s, hs⟩
  | error fault =>
      obtain ⟨message, hmessage, hending⟩ := h.of_eq_error hs
      exact .inr ⟨message, hmessage, hending ▸ run_unloaded hs⟩

/-- What is laid over the packaged configuration decides. -/
theorem reports_iff_overlay : Reports world request ↔
    Meets (fun overrides => overrides.isOverlay = true) Told (overlay world request.config) := by
  constructor
  · intro hreports
    cases h : overlay world request.config with
    | error fault => exact told_of_reports (settings_of_unread h) hreports
    | ok overrides =>
        by_contra hshape
        obtain ⟨message, -, hending⟩ :=
          told_of_reports (settings_of_shapeless (Bool.not_eq_true _ ▸ hshape) h) hreports
        cases hending
  · intro hmeets
    apply reports_of_meets
    rw [settings_eq_bind]
    exact hmeets.bind fun overrides hshape =>
      Settings.meets_ofOverrides hshape world.environment

theorem reports_of_told {fault : Fault} (htold : Told fault)
    (h : overlay world request.config = .error fault) : Reports world request :=
  reports_iff_overlay.mpr (by rw [h]; exact htold)

/-- Every failure to load a configuration is reported by the exit for it, whatever the
environment holds, except that a fault of the reader that is not told breaks the run off, and
so does a file that is no table. Faults of the operating system and of the values of scalars
are told. -/
theorem generate_reports (world : World) (request : GenerateRequest) :
    (Reports world request ↔
      Meets (fun overrides => overrides.isOverlay = true) Told (overlay world request.config)) ∧
    (∀ cause, overlay world request.config = .error (.system cause) → Reports world request) ∧
    (∀ cause, overlay world request.config = .error (.scalar cause) → Reports world request) ∧
    (∀ fault, overlay world request.config = .error fault →
      run world (.generate request) = ⟨[], [], loadEnding fault⟩) ∧
    ∀ overrides, overlay world request.config = .ok overrides → overrides.isOverlay = false →
      run world (.generate request) = ⟨[], [], .broken .notATable⟩ :=
  ⟨reports_iff_overlay, fun cause => reports_of_told (told_system cause),
    fun cause => reports_of_told (told_scalar cause),
    fun _ h => run_unloaded (settings_of_unread h),
    fun _ h hshape => run_unloaded (settings_of_shapeless hshape h)⟩

end

end Command

/-- A world with no files, for runs that draw from a twister without a seed. -/
def World.bare (source : Twister) (stdout : Stream) : World where
  files path := .error (.system (.noEntry path.toList))
  markup := Markup.read
  environment := []
  around := ⟨.naive 0, .universal⟩
  unseeded := source
  layout m format := .ok (Layout.write m format)
  stdout := stdout

namespace Command

/-- A world in which every file holds the same text, and a request that names one. -/
def worldOf (t : Text) : World :=
  { World.bare ⟨#[], 0⟩ .plain with files := fun _ => .ok t, environment := [("DDTGEN_SEED", "7")] }

def configuredRequest : GenerateRequest :=
  { keyword := "[randint]".toList, config := some "ddtgen.yml".toList }

/-- A section of the wrong shape is reported. -/
theorem generate_reports_wrong_shape :
    let world := worldOf "strings: 5\n".toList
    Reports world configuredRequest ∧
      run world (.generate configuredRequest) =
        ⟨[], [], .exit 4 (some "1 validation error for ConfigModel")⟩ := by
  intro world
  have hoverlay : Meets (fun overrides => overrides.isOverlay = true) (fun _ => False)
      (overlay world configuredRequest.config) := by
    decide +kernel
  have hmeets : Meets (fun overrides => overrides.isOverlay = true) Told
      (overlay world configuredRequest.config) := hoverlay.mono (fun _ h => h) fun _ h => h.elim
  exact ⟨(generate_reports world configuredRequest).1.mpr hmeets, by decide +kernel⟩

/-- A bracket that is not closed breaks the run off. -/
theorem generate_unclosed :
    let world := worldOf "a: [b\n".toList
    ¬ Reports world configuredRequest ∧
      run world (.generate configuredRequest) = ⟨[], [], .broken .markupStructure⟩ := by
  intro world
  have hfails : settings world configuredRequest.config = .error .markupStructure := by
    decide +kernel
  refine ⟨fun hreports => ?_, run_unloaded hfails⟩
  obtain ⟨message, -, hending⟩ := told_of_reports hfails hreports
  cases hending

end Command

end FixtureKeywords
