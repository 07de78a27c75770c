import FixtureKeywords.Proofs.Command.Rounds
import FixtureKeywords.Proofs.Settings.Load

/-!
# Checking and generating

A run of `generate` that has its configuration ends as generating its keyword does, and a
run of `check` as reading it does, unless standard output breaks them off. Both report a wrong
format by the same exit, and nothing else by that one. So the two commands tell apart the same
keywords.
-/
namespace FixtureKeywords.Command

section
variable {world : World} {request : GenerateRequest} {s : Settings}

/-- The configuration of a run: that of its file and its environment, with the seed that the
request gives. -/
def configured (world : World) (request : GenerateRequest) : Except Fault Settings :=
  settings world request.config >>= withSeed request.seed

theorem one_le_of_configured (h : configured world request = .ok s) : 1 ≤ s.defaultLength := by
  obtain ⟨bare, hbare, hseed⟩ := Outcome.bind_eq_ok.mp h
  obtain ⟨file, -, hload⟩ := Outcome.bind_eq_ok.mp hbare
  have hlength := Settings.one_le_of_load hload
  unfold withSeed at hseed
  split at hseed
  · obtain ⟨seed, -, rfl⟩ := Outcome.map_eq_ok.mp hseed
    exact hlength
  · obtain rfl := Except.ok.inj hseed
    exact hlength

/-- How a run may end after an outcome that was reached for its keyword. -/
def EndsAfter {α : Type} (ending : Ending) : Except Fault α → Prop
  | .error fault => ending = keywordEnding fault
  | .ok _ => ending = .exit 0 none ∨ ∃ fault, ending = .broken fault

theorem EndsAfter.ne_exit_two {α : Type} {ending : Ending} {outcome : Except Fault α}
    (h : EndsAfter ending outcome) (hformat : WellFormed outcome) (message : Option String) :
    ending ≠ .exit 2 message := by
  cases outcome with
  | ok a =>
      rcases h with rfl | ⟨fault, rfl⟩
      · simp
      · nofun
  | error fault =>
      obtain rfl : ending = keywordEnding fault := h
      cases fault with
      | format cause => exact absurd rfl (hformat cause)
      | _ => simp [keywordEnding]

theorem EndsAfter.ne_exit_four {α : Type} {ending : Ending} {outcome : Except Fault α}
    (h : EndsAfter ending outcome) (message : Option String) : ending ≠ .exit 4 message := by
  cases outcome with
  | ok a =>
      rcases h with rfl | ⟨fault, rfl⟩
      · simp
      · nofun
  | error fault =>
      obtain rfl : ending = keywordEnding fault := h
      cases fault <;> simp [keywordEnding]

theorem keywordEnding_of_printed {value : Value} {fault : Fault}
    (h : printed world s value = .error fault) : keywordEnding fault = .broken fault := by
  unfold printed at h
  cases hwritten : written world s value with
  | error cause =>
      rw [hwritten] at h
      obtain rfl := Except.error.inj h
      cases value with
      | text t => cases hwritten
      | integer n =>
          simp only [written] at hwritten
          split_ifs at hwritten
          obtain rfl := Except.error.inj hwritten
          rfl
      | moment m =>
          simp only [written] at hwritten
          split_ifs at hwritten
          cases hlayout : world.layout m s.outputFormat.toList with
          | error kind =>
              rw [hlayout] at hwritten
              obtain rfl := Except.error.inj hwritten
              rfl
          | ok line =>
              rw [hlayout] at hwritten
              cases hwritten
  | ok line =>
      rw [hwritten] at h
      cases hline : world.stdout line with
      | error kind =>
          simp only [bind, Except.bind, hline, Outcome.mapError_error] at h
          obtain rfl := Except.error.inj h
          rfl
      | ok shown =>
          simp only [bind, Except.bind, hline, Outcome.mapError_ok] at h
          cases h

variable [Almanac]

theorem run_generate (h : configured world request = .ok s) :
    run world (.generate request) =
      printValues world request s (List.replicate request.count world.around) := by
  obtain ⟨bare, hbare, hseed⟩ := Outcome.bind_eq_ok.mp h
  simp only [run, runGenerate, runRounds, hbare, hseed]

theorem endsAfter_printRounds {keyword : Text} {rounds : List Surroundings}
    {program : DrawProgram (Logged Value)} (h : Agree keyword s rounds (.ok program))
    (source : Twister) :
    EndsAfter (printRounds world keyword s source rounds).ending (Except.ok program) := by
  induction rounds generalizing source with
  | nil => exact .inl rfl
  | cons around rounds ih =>
      obtain ⟨hround, hrest⟩ := List.forall_mem_cons.mp h
      simp only [printRounds, hround]
      cases hprinted : printed world s (program.run Twister.source source).1.value with
      | error fault => exact .inr ⟨fault, keywordEnding_of_printed hprinted⟩
      | ok line => exact ih hrest _

theorem endsAfter_printValues (world : World) (request : GenerateRequest) (s : Settings) :
    EndsAfter
      (printValues world request s (List.replicate request.count world.around)).ending
      (Value.generate (.text (String.ofList request.keyword)) s.defaults world.around) := by
  have hagree := agree_replicate request.keyword s world.around request.count
  cases houtcome : Value.generate (.text (String.ofList request.keyword)) s.defaults
      world.around with
  | error fault =>
      rw [houtcome] at hagree
      have hround : List.replicate request.count world.around ≠ [] :=
        List.ne_nil_of_length_pos (List.length_replicate ▸ request.positive)
      exact congrArg RunReport.ending (printRounds_of_error hagree hround _)
  | ok program =>
      rw [houtcome] at hagree
      exact endsAfter_printRounds hagree _

theorem endsAfter_check (world : World) (keyword : Text) :
    EndsAfter (run world (.check keyword)).ending
      (Keyword.read (.text (String.ofList keyword))) := by
  simp only [run, runCheck]
  cases Keyword.read (.text (String.ofList keyword)) with
  | error fault => rfl
  | ok k =>
      dsimp only
      cases world.stdout k.family.name with
      | error kind => exact .inr ⟨_, rfl⟩
      | ok line => exact .inl rfl

end

end FixtureKeywords.Command
