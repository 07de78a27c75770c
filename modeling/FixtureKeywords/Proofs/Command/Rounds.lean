import FixtureKeywords.Proofs.Command.Loading
import FixtureKeywords.Proofs.Integers.Reach

/-!
# The rounds of a run

A request for several values is answered in rounds, and a fault could stop it in any of them.
What a keyword comes to is settled before a source is asked, so it is settled alike in all
rounds, unless the keyword looks at the clock: that is done for a datetime without a start,
once its offsets have been added. Whatever is drawn can be written. So the values of a run
are all there or none of them is, and rounds hand on the source and nothing else, which is
why the first values do not depend on how many follow.

Standard output is asked line by line. At a line that it refuses the run breaks off, behind
the lines that it has taken.
-/
namespace FixtureKeywords

namespace Keyword

def LooksAtClock : Keyword → Prop
  | .datetime parsed => (TemporalModifier.request parsed).map TemporalSpec.start = .ok none
  | _ => False

instance : DecidablePred LooksAtClock
  | .string _ => inferInstanceAs (Decidable False)
  | .integer _ => inferInstanceAs (Decidable False)
  | .datetime parsed => inferInstanceAs
      (Decidable ((TemporalModifier.request parsed).map TemporalSpec.start = .ok none))

end Keyword

theorem TemporalSpec.resolve_of_start {spec : TemporalSpec} {m : Moment} (h : spec.start = some m)
    (policy : ZonePolicy) {around later : Surroundings} (hsystem : around.system = later.system) :
    spec.resolve policy around = spec.resolve policy later := by
  have horigin : spec.origin around = spec.origin later := by
    unfold origin
    rw [h]
    rfl
  have htarget : spec.target policy around = spec.target policy later := by
    unfold target
    rw [horigin, hsystem]
  have hhere : spec.here policy around = spec.here policy later := by
    unfold here
    rw [horigin, htarget, hsystem]
  have hmoment : spec.moment policy around = spec.moment policy later := by
    unfold moment
    rw [hhere, htarget]
  unfold resolve record
  rw [hmoment, horigin, htarget]

namespace Stream

/-- The lines that a stream takes, up to the first that it refuses, and the kind of fault with
which it refuses that one. -/
def taken (stdout : Stream) : List String → List String × Option String
  | [] => ([], none)
  | line :: lines =>
      match stdout line with
      | .error kind => ([], some kind)
      | .ok shown => (shown :: (taken stdout lines).1, (taken stdout lines).2)

variable {stdout : Stream} {lines : List String} {kind : String}

theorem forall₂_taken (h : (stdout.taken lines).2 = none) :
    List.Forall₂ (fun line shown => stdout line = .ok shown) lines (stdout.taken lines).1 := by
  induction lines with
  | nil => exact .nil
  | cons line lines ih =>
      rw [taken] at h ⊢
      cases hline : stdout line with
      | error kind =>
          rw [hline] at h
          cases h
      | ok shown =>
          rw [hline] at h
          exact .cons hline (ih h)

theorem exists_refused (h : (stdout.taken lines).2 = some kind) :
    ∃ line, lines[(stdout.taken lines).1.length]? = some line ∧ stdout line = .error kind := by
  induction lines with
  | nil => cases h
  | cons line lines ih =>
      rw [taken] at h ⊢
      cases hline : stdout line with
      | error other =>
          rw [hline] at h
          obtain rfl : other = kind := Option.some.inj h
          exact ⟨line, rfl, hline⟩
      | ok shown =>
          rw [hline] at h
          exact ih h

/-- What is taken of the first lines is the first of what is taken of all, and a line is
refused among the first if fewer than those are taken. -/
theorem taken_take (stdout : Stream) (lines : List String) {m : Nat} (hm : m ≤ lines.length) :
    stdout.taken (lines.take m) = ((stdout.taken lines).1.take m,
      if m ≤ (stdout.taken lines).1.length then none else (stdout.taken lines).2) := by
  induction lines generalizing m with
  | nil =>
      obtain rfl := Nat.le_zero.mp hm
      rfl
  | cons line lines ih =>
      cases m with
      | zero => simp [taken]
      | succ m =>
          rw [List.take_succ_cons, taken, taken]
          cases stdout line with
          | error kind => simp
          | ok shown =>
              simp only [ih (Nat.le_of_succ_le_succ hm), List.take_succ_cons, List.length_cons,
                Nat.add_le_add_iff_right]

end Stream

/-- A report tells of the lines of another, as far as standard output takes them. A line that
is refused ends it. -/
structure RunReport.Shows (stdout : Stream) (wished report : RunReport) : Prop where
  printed : report.printed = (stdout.taken wished.printed).1
  ending : report.ending = ((stdout.taken wished.printed).2.map fun kind =>
    Ending.broken (.foreign kind)).getD wished.ending

namespace RunReport
variable {stdout : Stream} {wished wishedFirst all first : RunReport} {m : Nat}

theorem Shows.of_nothing (h : Shows stdout wished all) (hnone : wished.printed = []) :
    all.printed = [] ∧ all.ending = wished.ending := by
  obtain ⟨hprinted, hending⟩ := h
  rw [hnone] at hprinted hending
  exact ⟨hprinted, hending⟩

theorem Shows.behind (h : Shows stdout wished all) {line shown : String}
    (hline : stdout line = .ok shown) (record : LogRecord) :
    Shows stdout (wished.behind line record) (all.behind shown record) := by
  constructor
  · simp only [RunReport.behind, Stream.taken, hline, h.printed]
  · simp only [RunReport.behind, Stream.taken, hline, h.ending]

theorem shows_of_refused {line kind : String} (hline : stdout line = .error kind)
    (record : LogRecord) (logged : List LogRecord) :
    Shows stdout (wished.behind line record) ⟨[], logged, .broken (.foreign kind)⟩ := by
  constructor <;> simp [RunReport.behind, Stream.taken, hline]

/-- All lines are taken, or one is refused. Either way the first lines fare as they do among
all of them. -/
theorem Shows.cases_of_take (hall : Shows stdout wished all)
    (hfirst : Shows stdout wishedFirst first) (hending : wished.ending = .exit 0 none)
    (hendingFirst : wishedFirst.ending = .exit 0 none)
    (htake : wishedFirst.printed = wished.printed.take m) (hm : m ≤ wished.printed.length) :
    first.printed = all.printed.take m ∧
      ((all.ending = .exit 0 none ∧ first.ending = .exit 0 none ∧
        List.Forall₂ (fun line shown => stdout line = .ok shown) wished.printed all.printed) ∨
      ∃ line kind, wished.printed[all.printed.length]? = some line ∧
        stdout line = .error kind ∧ all.ending = .broken (.foreign kind) ∧
        first.ending = if m ≤ all.printed.length then .exit 0 none else all.ending) := by
  obtain ⟨hprinted, hends⟩ := hall
  obtain ⟨hprintedFirst, hendsFirst⟩ := hfirst
  rw [htake, Stream.taken_take stdout wished.printed hm] at hprintedFirst hendsFirst
  rw [hendingFirst] at hendsFirst
  rw [hending] at hends
  refine ⟨hprinted ▸ hprintedFirst, ?_⟩
  cases hrefused : (stdout.taken wished.printed).2 with
  | none =>
      rw [hrefused] at hends hendsFirst
      refine .inl ⟨hends, ?_, hprinted ▸ Stream.forall₂_taken hrefused⟩
      simpa using hendsFirst
  | some kind =>
      rw [hrefused] at hends hendsFirst
      obtain ⟨line, hline, herror⟩ := Stream.exists_refused hrefused
      refine .inr ⟨line, kind, hprinted ▸ hline, herror, hends, ?_⟩
      rw [hendsFirst, hends, hprinted]
      split_ifs <;> rfl

end RunReport

/-- The same world, with a terminal for standard output. -/
def World.atTerminal (world : World) : World :=
  { world with stdout := .terminal }

namespace Command

theorem keywordEnding_ne (fault : Fault) : keywordEnding fault ≠ .exit 0 none := by
  cases fault <;> simp [keywordEnding]

theorem loadEnding_ne (fault : Fault) : loadEnding fault ≠ .exit 0 none := by
  unfold loadEnding
  split <;> simp

theorem printed_atTerminal (world : World) (s : Settings) (value : Value) :
    printed world.atTerminal s value = written world s value := by
  change written world s value >>= _ = _
  cases written world s value <;> rfl

end Command

section
variable [Almanac]

namespace Value
variable {cell : Datum} {defaults : Defaults} {around later : Surroundings}

/-- What a keyword that does not look at the clock comes to is the same at all times. -/
theorem generate_congr (hclock : ∀ k, Keyword.read cell = .ok k → ¬ k.LooksAtClock)
    (hsystem : around.system = later.system) :
    generate cell defaults around = generate cell defaults later := by
  unfold Keyword.read at hclock
  unfold generate
  cases hfamily : familyOf cell with
  | error fault => rfl
  | ok found =>
      obtain ⟨family, t⟩ := found
      cases family with
      | string => rfl
      | integer => rfl
      | datetime =>
          simp only [hfamily, bind, Except.bind] at hclock ⊢
          refine congrArg (Except.map _) ?_
          unfold TemporalModifier.generate
          cases hparse : TemporalModifier.parse t with
          | error fault => rfl
          | ok parsed =>
              cases hrequest : TemporalModifier.request parsed with
              | error fault => simp only [bind, Except.bind, hrequest]
              | ok spec =>
                  have hstart : spec.start ≠ none := fun hnone =>
                    hclock (.datetime parsed) (by rw [hparse]; rfl)
                      (Outcome.map_eq_ok.mpr ⟨spec, hrequest, hnone⟩)
                  obtain ⟨m, hm⟩ := Option.ne_none_iff_exists'.mp hstart
                  simp only [bind, Except.bind, hrequest]
                  exact TemporalSpec.resolve_of_start hm defaults.policy hsystem

/-- Whatever is drawn for a keyword can be written, and where nothing is drawn it is the same
value at all times. -/
theorem written_cases {program : DrawProgram (Logged Value)}
    (h : generate cell defaults around = .ok program) (world : World) (s : Settings) :
    (∃ out, program = .done out) ∨
      program.Yields fun out => ∃ line, Command.written world s out.value = .ok line := by
  obtain ⟨⟨family, t⟩, -, h⟩ := Outcome.bind_eq_ok.mp h
  cases family with
  | string =>
      obtain ⟨strings, -, rfl⟩ := Outcome.map_eq_ok.mp h
      exact .inr (DrawProgram.yields_map fun out => ⟨_, rfl⟩)
  | integer =>
      obtain ⟨integers, hintegers, rfl⟩ := Outcome.map_eq_ok.mp h
      refine .inr (DrawProgram.Yields.map ((IntegerModifier.yields_generate hintegers).mono ?_))
      intro out hout
      exact ⟨_, if_pos hout⟩
  | datetime =>
      obtain ⟨out, -, rfl⟩ := Outcome.map_eq_ok.mp h
      exact .inl ⟨_, rfl⟩

end Value

namespace Command
variable {world : World} {request : GenerateRequest} {keyword : Text} {s : Settings}
  {rounds others : List Surroundings} {program : DrawProgram (Logged Value)}

def Agree (keyword : Text) (s : Settings) (rounds : List Surroundings)
    (outcome : Except Fault (DrawProgram (Logged Value))) : Prop :=
  ∀ around ∈ rounds, Value.generate (.text (String.ofList keyword)) s.defaults around = outcome

theorem agree_replicate (keyword : Text) (s : Settings) (around : Surroundings) (count : Nat) :
    Agree keyword s (List.replicate count around)
      (Value.generate (.text (String.ofList keyword)) s.defaults around) := by
  intro later hlater
  rw [List.eq_of_mem_replicate hlater]

/-- Standard output takes what a run would print to a terminal, up to the first line that it
refuses. That line ends the run. -/
theorem printRounds_shows (world : World) (keyword : Text) (s : Settings) (source : Twister)
    (rounds : List Surroundings) :
    RunReport.Shows world.stdout (printRounds world.atTerminal keyword s source rounds)
      (printRounds world keyword s source rounds) := by
  induction rounds generalizing source with
  | nil => exact ⟨rfl, rfl⟩
  | cons around rounds ih =>
      simp only [printRounds, printed_atTerminal]
      cases Value.generate (.text (String.ofList keyword)) s.defaults around with
      | error fault => exact ⟨rfl, rfl⟩
      | ok program =>
          dsimp only
          unfold printed
          cases written world s (program.run Twister.source source).1.value with
          | error fault => exact ⟨rfl, rfl⟩
          | ok line =>
              cases hline : world.stdout line with
              | error kind =>
                  simp only [bind, Except.bind, hline, Outcome.mapError_error]
                  exact RunReport.shows_of_refused hline _ _
              | ok shown =>
                  simp only [bind, Except.bind, hline, Outcome.mapError_ok]
                  exact (ih (program.run Twister.source source).2).behind hline _

theorem runRounds_shows (world : World) (request : GenerateRequest)
    (rounds : List Surroundings) :
    RunReport.Shows world.stdout (runRounds world.atTerminal request rounds)
      (runRounds world request rounds) := by
  have hsettings : settings world.atTerminal request.config = settings world request.config := rfl
  simp only [runRounds, hsettings]
  cases settings world request.config with
  | error fault => exact ⟨rfl, rfl⟩
  | ok bare =>
      dsimp only
      cases withSeed request.seed bare with
      | error fault => exact ⟨rfl, rfl⟩
      | ok s => exact printRounds_shows world request.keyword s _ rounds

theorem printRounds_of_error {fault : Fault} (h : Agree keyword s rounds (.error fault))
    (hrounds : rounds ≠ []) (source : Twister) :
    printRounds world keyword s source rounds = ⟨[], [], keywordEnding fault⟩ := by
  obtain ⟨around, rest, rfl⟩ := List.exists_cons_of_ne_nil hrounds
  simp only [printRounds, h around List.mem_cons_self]

theorem printRounds_of_unwritten {out : Logged Value} {fault : Fault}
    (h : Agree keyword s rounds (.ok (.done out)))
    (hwritten : written world s out.value = .error fault) (hrounds : rounds ≠ [])
    (source : Twister) :
    printRounds world keyword s source rounds = ⟨[], [out.record], keywordEnding fault⟩ := by
  obtain ⟨around, rest, rfl⟩ := List.exists_cons_of_ne_nil hrounds
  have hprinted : printed world s out.value = .error fault := by
    unfold printed
    rw [hwritten]
    rfl
  simp only [printRounds, h around List.mem_cons_self, DrawProgram.run, hprinted]

/-- The rounds fail in the first one, or whatever is drawn in them can be written. -/
theorem fails_or_yields {cell : Datum} {around : Surroundings}
    {outcome : Except Fault (DrawProgram (Logged Value))}
    (h : Value.generate cell s.defaults around = outcome) (world : World) (keyword : Text) :
    (∃ ending, ending ≠ .exit 0 none ∧ ∀ source, ∀ rounds ≠ [], Agree keyword s rounds outcome →
      (printRounds world keyword s source rounds).printed = [] ∧
        (printRounds world keyword s source rounds).ending = ending) ∨
    ∃ program, outcome = .ok program ∧
      program.Yields fun out => ∃ line, written world s out.value = .ok line := by
  cases outcome with
  | error fault =>
      refine .inl ⟨keywordEnding fault, keywordEnding_ne fault, fun source rounds hrounds ha => ?_⟩
      rw [printRounds_of_error ha hrounds]
      exact ⟨rfl, rfl⟩
  | ok program =>
      rcases Value.written_cases h world s with ⟨out, rfl⟩ | hyields
      · cases hwritten : written world s out.value with
        | ok line => exact .inr ⟨_, rfl, fun _ _ _ => ⟨line, hwritten⟩⟩
        | error fault =>
            refine .inl ⟨keywordEnding fault, keywordEnding_ne fault, ?_⟩
            intro source rounds hrounds ha
            rw [printRounds_of_unwritten ha hwritten hrounds]
            exact ⟨rfl, rfl⟩
      · exact .inr ⟨program, rfl, hyields⟩

section
variable (hwritten : program.Yields fun out => ∃ line, written world s out.value = .ok line)
include hwritten

/-- At a terminal a round prints a line and leaves the source to the others. Both depend on
what the keyword comes to, and not on the round. -/
theorem exists_printRounds_cons (source : Twister) : ∃ line record, ∀ around rounds,
    Value.generate (.text (String.ofList keyword)) s.defaults around = .ok program →
      printRounds world.atTerminal keyword s source (around :: rounds) =
        (printRounds world.atTerminal keyword s (program.run Twister.source source).2
          rounds).behind line record := by
  obtain ⟨line, hline⟩ := hwritten Twister Twister.source source
  refine ⟨line, (program.run Twister.source source).1.record, fun around rounds haround => ?_⟩
  simp only [printRounds, haround, printed_atTerminal, hline]

theorem printRounds_of_ok (h : Agree keyword s rounds (.ok program)) (source : Twister) :
    (printRounds world.atTerminal keyword s source rounds).ending = .exit 0 none ∧
      (printRounds world.atTerminal keyword s source rounds).printed.length =
        rounds.length := by
  induction rounds generalizing source with
  | nil => exact ⟨rfl, rfl⟩
  | cons around rounds ih =>
      obtain ⟨hround, hrest⟩ := List.forall_mem_cons.mp h
      obtain ⟨line, record, hprint⟩ := exists_printRounds_cons hwritten source
      obtain ⟨hending, hlength⟩ := ih hrest (program.run Twister.source source).2
      rw [hprint around rounds hround]
      exact ⟨hending, congrArg (· + 1) hlength⟩

theorem printRounds_take (h : Agree keyword s rounds (.ok program))
    (hfirst : Agree keyword s others (.ok program)) (hle : others.length ≤ rounds.length)
    (source : Twister) :
    (printRounds world.atTerminal keyword s source others).printed =
      (printRounds world.atTerminal keyword s source rounds).printed.take others.length := by
  induction others generalizing rounds source with
  | nil => rfl
  | cons other others ih =>
      cases rounds with
      | nil => cases hle
      | cons around rounds =>
          obtain ⟨hround, hrest⟩ := List.forall_mem_cons.mp h
          obtain ⟨hother, hothers⟩ := List.forall_mem_cons.mp hfirst
          obtain ⟨line, record, hprint⟩ := exists_printRounds_cons hwritten source
          rw [hprint around rounds hround, hprint other others hother]
          exact congrArg (line :: ·)
            (ih hrest hothers (Nat.le_of_succ_le_succ hle) (program.run Twister.source source).2)

end

/-- Whether rounds for a terminal have lines can be seen from any source. -/
theorem ending_of_source {around : Surroundings} {source : Twister}
    (h : (printRounds world.atTerminal keyword s source [around]).ending = .exit 0 none)
    (other : Twister) (count : Nat) :
    (printRounds world.atTerminal keyword s other (List.replicate count around)).ending =
      .exit 0 none := by
  have hagree := agree_replicate keyword s around
  rcases fails_or_yields rfl world.atTerminal keyword with
    ⟨ending, hending, hfails⟩ | ⟨program, hprogram, hyields⟩
  · have hround : [around] ≠ [] := List.cons_ne_nil _ _
    exact absurd ((hfails source _ hround (hagree 1)).2.symm.trans h) hending
  · rw [hprogram] at hagree
    exact (printRounds_of_ok hyields (hagree count) other).1

/-- A report that a run may come to, whatever the clock shows in its rounds. -/
def MayReport (world : World) (request : GenerateRequest) (report : RunReport) : Prop :=
  ∃ rounds, rounds.length = request.count ∧
    (∀ around ∈ rounds, around.system = world.around.system) ∧
      report = runRounds world request rounds

theorem mayReport_run (world : World) (request : GenerateRequest) :
    MayReport world request (run world (.generate request)) :=
  ⟨List.replicate request.count world.around, List.length_replicate,
    fun _ h => congrArg Surroundings.system (List.eq_of_mem_replicate h), rfl⟩

section
variable (hclock : ∀ k,
  Keyword.read (.text (String.ofList request.keyword)) = .ok k → ¬ k.LooksAtClock)
include hclock

/-- A run fails in its first round, or even before, and prints nothing; or each of its rounds
has a line for a terminal, the same for all runs that come to that round. -/
theorem runRounds_cases :
    (∃ ending, ending ≠ .exit 0 none ∧ ∀ rounds ≠ [],
      (∀ around ∈ rounds, around.system = world.around.system) →
        (runRounds world.atTerminal request rounds).printed = [] ∧
          (runRounds world.atTerminal request rounds).ending = ending) ∨
    ∀ rounds others, (∀ around ∈ rounds, around.system = world.around.system) →
      (∀ around ∈ others, around.system = world.around.system) →
        others.length ≤ rounds.length →
          (runRounds world.atTerminal request rounds).printed.length = rounds.length ∧
          (runRounds world.atTerminal request others).ending = .exit 0 none ∧
          (runRounds world.atTerminal request others).printed =
            (runRounds world.atTerminal request rounds).printed.take others.length := by
  cases hsettings : settings world.atTerminal request.config with
  | error fault =>
      exact .inl ⟨loadEnding fault, loadEnding_ne fault, fun _ _ _ => by
        simp only [runRounds, hsettings, and_self]⟩
  | ok bare =>
      cases hseed : withSeed request.seed bare with
      | error fault =>
          exact .inl ⟨.broken fault, Ending.noConfusion, fun _ _ _ => by
            simp only [runRounds, hsettings, hseed, and_self]⟩
      | ok s =>
          have hrun (rounds : List Surroundings) : runRounds world.atTerminal request rounds =
              printValues world.atTerminal request s rounds := by
            simp only [runRounds, hsettings, hseed]
          have hagree (rounds : List Surroundings)
              (hsystem : ∀ around ∈ rounds, around.system = world.around.system) :
              Agree request.keyword s rounds
                (Value.generate (.text (String.ofList request.keyword)) s.defaults world.around) :=
            fun around haround => Value.generate_congr hclock (hsystem around haround)
          rcases fails_or_yields rfl world.atTerminal request.keyword with
            ⟨ending, hending, hfails⟩ | ⟨program, hprogram, hyields⟩
          · refine .inl ⟨ending, hending, fun rounds hrounds hsystem => ?_⟩
            rw [hrun]
            exact hfails _ rounds hrounds (hagree rounds hsystem)
          · rw [hprogram] at hagree
            refine .inr fun rounds others hsystem hothers hle => ?_
            rw [hrun, hrun]
            exact ⟨(printRounds_of_ok hyields (hagree rounds hsystem) _).2,
              (printRounds_of_ok hyields (hagree others hothers) _).1,
              printRounds_take hyields (hagree rounds hsystem) (hagree others hothers) hle _⟩

end

/-- The runs of a keyword that does not look at the clock, for two counts and at any time, fail
in the same way and print nothing; or each of them prints as many values as it was asked for,
and the one with the lower count prints the first values of the other one; or a line is refused
by standard output, and a run that comes to it breaks off there. -/
theorem generate_counts (world : World) (request : GenerateRequest) (hclock : ∀ k,
      Keyword.read (.text (String.ofList request.keyword)) = .ok k → ¬ k.LooksAtClock)
    {m n : Nat} (hm : 1 ≤ m) (hmn : m ≤ n) :
    let lower : GenerateRequest := { request with count := m, positive := hm }
    let upper : GenerateRequest := { request with count := n, positive := hm.trans hmn }
    let wished := run world.atTerminal (.generate upper)
    MayReport world lower (run world (.generate lower)) ∧
      MayReport world upper (run world (.generate upper)) ∧
      ∀ first all, MayReport world lower first → MayReport world upper all →
        (all.ending = .exit 0 none ∧ all.printed.length = n ∧
          List.Forall₂ (fun line shown => world.stdout line = .ok shown)
            wished.printed all.printed ∧
          first.ending = .exit 0 none ∧ first.printed = all.printed.take m) ∨
        (all.ending ≠ .exit 0 none ∧ all.printed = [] ∧
          first.ending = all.ending ∧ first.printed = []) ∨
        ∃ line kind, wished.printed[all.printed.length]? = some line ∧
          world.stdout line = .error kind ∧ all.ending = .broken (.foreign kind) ∧
          all.printed.length < n ∧ first.printed = all.printed.take m ∧
          first.ending = if m ≤ all.printed.length then .exit 0 none else all.ending := by
  intro lower upper wished
  refine ⟨mayReport_run world lower, mayReport_run world upper, ?_⟩
  rintro first all ⟨others, hothers, hfirst, rfl⟩ ⟨rounds, hrounds, hall, rfl⟩
  have hshows : (runRounds world.atTerminal request rounds).Shows world.stdout
      (runRounds world upper rounds) := runRounds_shows world upper rounds
  have hshowsFirst : (runRounds world.atTerminal request others).Shows world.stdout
      (runRounds world lower others) := runRounds_shows world lower others
  rcases runRounds_cases hclock with ⟨ending, hending, hfails⟩ | hprints
  · have hnonempty {rounds : List Surroundings} (h : 1 ≤ rounds.length) : rounds ≠ [] :=
      List.ne_nil_of_length_pos h
    obtain ⟨hnone, hends⟩ := hfails rounds (hnonempty (hrounds ▸ hm.trans hmn)) hall
    obtain ⟨hnoneFirst, hendsFirst⟩ := hfails others (hnonempty (hothers ▸ hm)) hfirst
    obtain ⟨hprinted, hsame⟩ := hshows.of_nothing hnone
    obtain ⟨hprintedFirst, hsameFirst⟩ := hshowsFirst.of_nothing hnoneFirst
    rw [hends] at hsame
    rw [hendsFirst] at hsameFirst
    exact .inr (.inl ⟨hsame ▸ hending, hprinted, hsameFirst.trans hsame.symm, hprintedFirst⟩)
  · -- Runs for a terminal print the same lines, as many as they are asked for.
    have hlines (rounds : List Surroundings) (hle : rounds.length ≤ n)
        (hsystem : ∀ around ∈ rounds, around.system = world.around.system) :
        wished.printed.length = n ∧
          (runRounds world.atTerminal request rounds).ending = .exit 0 none ∧
          (runRounds world.atTerminal request rounds).printed =
            wished.printed.take rounds.length := by
      have h := hprints (List.replicate n world.around) rounds
        (fun _ h => congrArg Surroundings.system (List.eq_of_mem_replicate h)) hsystem
      rw [List.length_replicate] at h
      exact h hle
    obtain ⟨hlength, hends, hprinted⟩ := hlines rounds hrounds.le hall
    obtain ⟨-, hendsFirst, hprintedFirst⟩ := hlines others (hothers.trans_le hmn) hfirst
    have hwished : (runRounds world.atTerminal request rounds).printed = wished.printed := by
      rw [hprinted, List.take_of_length_le (hlength.trans hrounds.symm).le]
    have htake : (runRounds world.atTerminal request others).printed =
        (runRounds world.atTerminal request rounds).printed.take m := by
      rw [hprintedFirst, hwished, hothers]
    have hlengths : (runRounds world.atTerminal request rounds).printed.length = n :=
      congrArg List.length hwished |>.trans hlength
    obtain ⟨hfirsts, ⟨hexit, hexitFirst, htaken⟩ | ⟨line, kind, hline, hrefused, hbroken, hend⟩⟩ :=
      hshows.cases_of_take hshowsFirst hends hendsFirst htake (hlengths ▸ hmn)
    · rw [hwished] at htaken
      exact .inl ⟨hexit, htaken.length_eq.symm.trans hlength, htaken, hexitFirst, hfirsts⟩
    · have hlt := (List.getElem?_eq_some_iff.mp hline).choose
      rw [hwished] at hline
      exact .inr (.inr ⟨line, kind, hline, hrefused, hbroken, hlengths ▸ hlt, hfirsts, hend⟩)

end Command

end

namespace Command

/-- A year after a leap day, asked for twice and five times. -/
theorem generate_counts_leap_day :
    let world : World := .bare ⟨#[], 0⟩ .plain
    let leap : GenerateRequest :=
      { keyword := "[datetime\x7bstart=2024-02-29T12:00Z\x7d\x7b+1y\x7d]".toList }
    let twice := run world (.generate { leap with count := 2, positive := by decide })
    twice.ending = .exit 0 none ∧
      twice.printed = ["2025-02-28T12:00:00+00:00", "2025-02-28T12:00:00+00:00"] := by
  intro world leap twice
  have hread : Outcome.Meets (fun k => ¬ k.LooksAtClock) (fun _ => True)
      (Keyword.read (.text (String.ofList leap.keyword))) := by
    decide
  obtain ⟨hfirst, hall, hcounts⟩ :=
    generate_counts world leap (fun k hk => hread.of_eq_ok hk) (m := 2) (n := 5)
      (by decide) (by decide)
  have hprinted : (run world (.generate { leap with count := 5, positive := by decide })).printed =
      List.replicate 5 "2025-02-28T12:00:00+00:00" := by
    decide
  rcases hcounts _ _ hfirst hall with ⟨-, -, -, hending, htwice⟩ | ⟨-, hnone, -⟩ |
    ⟨_, _, -, -, -, hlt, -⟩
  · exact ⟨hending, htwice.trans (congrArg (List.take 2) hprinted)⟩
  · exact absurd (hnone.symm.trans hprinted) (by decide)
  · exact absurd (hprinted ▸ hlt) (by decide)

/-- A character is drawn in the second round that standard output cannot encode: asked for one
value the run succeeds, asked for two it breaks off behind the first. And away from a terminal
the lines of a run lack the styles of its values. -/
theorem generate_breaks_off :
    let latin : World := .bare ⟨#[0, 0x40000000], 0⟩ (.encoding fun c => c.toNat < 0x100)
    let letter : GenerateRequest :=
      { keyword := "[randstring\x7binclude=[a€]\x7d\x7blength=1\x7d]".toList }
    let one := run latin (.generate letter)
    let two := run latin (.generate { letter with count := 2, positive := by decide })
    let piped : World :=
      { World.bare ⟨#[], 0⟩ .plain with
        files := fun _ => .ok "datetimes:\n  output_format: \"\\e[1m%Y\"\n".toList }
    let styled : GenerateRequest :=
      { keyword := "[datetime\x7bstart=2016-03-12T18:00Z\x7d]".toList
        seed := some "7".toList
        config := some "ddtgen.yml".toList }
    (one.ending = .exit 0 none ∧ one.printed = ["a"] ∧
      two.ending = .broken (.foreign "UnicodeEncodeError") ∧ two.printed = ["a"]) ∧
    (run piped.atTerminal (.generate styled)).printed = ["\x1b[1m2016"] ∧
      (run piped (.generate styled)).printed = ["2016"] := by
  decide +kernel

end Command

end FixtureKeywords
