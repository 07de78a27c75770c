import FixtureKeywords.Proofs.Process.Chronicle

/-!
# One process at a time

A runner holds the process that it started last. A start puts another one in its place and
lets the old one go, whatever becomes of it. A household lists those as well, so that all
processes that the runner ever started are counted and not only the one that it can see.

Any of them may end at any moment. None that was let go is alive: a start succeeds only while
no process is running, and this holds in between as well, since to run a command is to start
it and then to wait for it. So it is enough to look at what one event does.
-/
namespace FixtureKeywords

/-- A process ends by itself, unless it has ended. -/
def Child.exits (code : Int) : Child → Child
  | alive => ended code
  | ended earlier => ended earlier

/-- A runner, and the processes that it started and holds no longer, the last one first. -/
structure Household where
  runner : Runner
  released : List Child
deriving DecidableEq, Repr

/-- Something that happens in a household. Processes are counted from the one that was
started last. -/
inductive Happening where
  | exits (process : Nat) (code : Int)
  | call (call : Runner.Call) (answer : MachineAnswer)
deriving DecidableEq, Repr

namespace Runner
variable {r next : Runner} {answer : MachineAnswer}

def Call.isStart : Call → Bool
  | run _ | runAsync => true
  | _ => false

/-- Whether a call puts a new process in the place of the one that is held. -/
def launches (r : Runner) (answer : MachineAnswer) (call : Call) : Bool :=
  call.isStart && (r.start answer.refusal).isOk

theorem start_eq_ok {refusal : Option Refusal} (h : r.start refusal = .ok next) :
    r.isRunning = false ∧ next = { r with child := some .alive } := by
  unfold start at h
  split_ifs at h with hrunning
  refine ⟨Bool.not_eq_true _ ▸ hrunning, ?_⟩
  rcases refusal with _ | _ | _
  · exact (Except.ok.inj h).symm
  · cases h
  · cases h

theorem start_of_isRunning (h : r.isRunning = true) (refusal : Option Refusal) :
    r.start refusal = .error (.process (.alreadyRunning r.shown)) :=
  if_pos h

theorem start_of_system (h : r.isRunning = false) (cause : SystemFault) :
    r.start (some (.system cause)) = .error (.process (.cannotStart r.shownLine cause)) := by
  simp [start, h]

theorem perform_of_start_eq_error {fault : Fault} (h : r.start answer.refusal = .error fault)
    {call : Call} (hcall : call.isStart = true) :
    r.perform answer call = (.error fault, r) := by
  cases call with
  | run seconds => simp only [perform, run, h, Except.map]
  | runAsync => simp only [perform, h]
  | _ => cases hcall

theorem perform_of_start_eq_ok (h : r.start answer.refusal = .ok next) :
    r.perform answer .runAsync = (.ok .nothing, next) ∧
      ∀ seconds, r.perform answer (.run seconds) = next.perform answer (.wait seconds) := by
  refine ⟨?_, fun seconds => ?_⟩
  · simp only [perform, h]
  · simp only [perform, run, h]

theorem wait_of_error {endsInTime : Option Int} {seconds : String} {fault : Fault}
    (h : (r.wait endsInTime seconds).1 = .error fault) : (r.wait endsInTime seconds).2 = r := by
  unfold wait at h ⊢
  split at h
  next => rfl
  next => cases h
  next =>
      cases endsInTime with
      | none => rfl
      | some code => cases h

theorem perform_wait_of_error {seconds : String} {fault : Fault}
    (h : (r.perform answer (.wait seconds)).1 = .error fault) :
    (r.perform answer (.wait seconds)).2 = r := by
  simp only [perform] at h ⊢
  cases hwait : (r.wait answer.endsInTime seconds).1 with
  | error cause => exact wait_of_error hwait
  | ok code =>
      rw [hwait] at h
      cases h

theorem perform_wait_of_alive (h : r.isRunning = true) (hlate : answer.endsInTime = none)
    (seconds : String) : (r.perform answer (.wait seconds)).1 =
      .error (.process (.stillRunning r.shownLine seconds)) := by
  have halive : r.child = some .alive := of_decide_eq_true h
  simp only [perform, wait, halive, hlate, Except.map]

theorem isRunning_childEnds (r : Runner) (code : Int) : (r.childEnds code).isRunning = false := by
  unfold childEnds
  split_ifs with hrunning
  · rfl
  · exact Bool.not_eq_true _ ▸ hrunning

end Runner

namespace Household
variable {h : Household} {answer : MachineAnswer}

def ofRunner (r : Runner) : Household := ⟨r, []⟩

/-- All processes that were started, the last one first. -/
def processes (h : Household) : List Child :=
  h.runner.child.toList ++ h.released

/-- The number of processes that are alive. -/
def alive (h : Household) : Nat :=
  h.processes.count .alive

def after (h : Household) : Happening → Household
  | .exits 0 code => { h with runner := h.runner.childEnds code }
  | .exits (n + 1) code => { h with released := h.released.modify n (Child.exits code) }
  | .call call answer =>
      ⟨(h.runner.perform answer call).2,
        if h.runner.launches answer call then h.processes else h.released⟩

def afterAll (h : Household) (happenings : List Happening) : Household :=
  happenings.foldl after h

/-- No process that was let go is alive. -/
def Settled (h : Household) : Prop :=
  .alive ∉ h.released

theorem alive_eq (hsettled : h.Settled) : h.alive = if h.runner.isRunning then 1 else 0 := by
  have hreleased : h.released.count .alive = 0 := List.count_eq_zero.mpr hsettled
  unfold alive processes Runner.isRunning
  rw [List.count_append, hreleased]
  rcases h.runner.child with _ | _ | code <;> rfl

theorem alive_notMem_modify {ps : List Child} (hps : .alive ∉ ps) (n : Nat) (code : Int) :
    .alive ∉ ps.modify n (Child.exits code) := by
  intro hmem
  obtain ⟨i, hi⟩ := List.mem_iff_getElem?.mp hmem
  rw [List.getElem?_modify, Option.map_eq_map, Option.map_eq_some_iff] at hi
  obtain ⟨p, hp, hend⟩ := hi
  have hne : p ≠ .alive := fun halive => hps (halive ▸ List.mem_of_getElem? hp)
  split_ifs at hend
  · cases p with
    | alive => exact hne rfl
    | ended earlier => cases hend
  · exact hne hend

/-- The process that a start lets go has ended, since the start succeeded. -/
theorem alive_notMem_processes (hsettled : h.Settled) {call : Runner.Call}
    (hlaunches : h.runner.launches answer call = true) : .alive ∉ h.processes := by
  obtain ⟨-, hok⟩ := Bool.and_eq_true_iff.mp hlaunches
  cases hstart : h.runner.start answer.refusal with
  | error fault =>
      rw [hstart] at hok
      cases hok
  | ok next =>
      obtain ⟨hresting, -⟩ := Runner.start_eq_ok hstart
      have hnone : h.alive = 0 := by
        rw [alive_eq hsettled, hresting]
        rfl
      exact List.count_eq_zero.mp hnone

theorem Settled.after (hsettled : h.Settled) (e : Happening) : (h.after e).Settled := by
  cases e with
  | exits process code =>
      cases process with
      | zero => exact hsettled
      | succ n => exact alive_notMem_modify hsettled n code
  | call call answer =>
      unfold Settled Household.after
      dsimp only
      split_ifs with hlaunches
      · exact alive_notMem_processes hsettled hlaunches
      · exact hsettled

theorem Settled.afterAll (hsettled : h.Settled) (happenings : List Happening) :
    (h.afterAll happenings).Settled := by
  induction happenings generalizing h with
  | nil => exact hsettled
  | cons e happenings ih => exact ih (hsettled.after e)

theorem launches_eq_false {fault : Fault} (hstart : h.runner.start answer.refusal = .error fault)
    (call : Runner.Call) : h.runner.launches answer call = false := by
  unfold Runner.launches
  rw [hstart]
  exact Bool.and_false _

theorem after_of_start_eq_error {fault : Fault}
    (hstart : h.runner.start answer.refusal = .error fault) {call : Runner.Call}
    (hcall : call.isStart = true) : h.after (.call call answer) = h := by
  simp only [after, Runner.perform_of_start_eq_error hstart hcall, launches_eq_false hstart,
    Bool.false_eq_true, if_false]

theorem after_of_wait_eq_error {seconds : String} {fault : Fault}
    (hwait : (h.runner.perform answer (.wait seconds)).1 = .error fault) :
    h.after (.call (.wait seconds) answer) = h := by
  simp only [after, Runner.perform_wait_of_error hwait, Runner.launches, Runner.Call.isStart,
    Bool.false_and, Bool.false_eq_true, if_false]

theorem after_run {next : Runner} (hstart : h.runner.start answer.refusal = .ok next)
    (seconds : String) : h.after (.call (.run seconds) answer) =
      (h.after (.call .runAsync answer)).after (.call (.wait seconds) answer) := by
  obtain ⟨hasync, hrun⟩ := Runner.perform_of_start_eq_ok hstart
  simp only [Household.after, hasync, hrun, Runner.launches, Runner.Call.isStart, Bool.true_and,
    Bool.false_and, Bool.false_eq_true, if_false]

/-- Whatever was called and whatever ended, at most one process of a runner is alive, and it is
the one that the runner holds. A start is refused while it is alive; a start that fails and a
wait that fails leave everything as it was; and none is alive when it was told to end. -/
theorem alive_afterAll (r : Runner) (happenings : List Happening) :
    let now := (ofRunner r).afterAll happenings
    now.alive ≤ 1 ∧ (now.alive = 1 ↔ now.runner.isRunning = true) ∧
      ∀ answer : MachineAnswer,
        -- A start.
        (now.runner.isRunning = true → now.runner.start answer.refusal =
          .error (.process (.alreadyRunning now.runner.shown))) ∧
        (∀ cause, now.runner.isRunning = false → answer.refusal = some (.system cause) →
          now.runner.start answer.refusal =
            .error (.process (.cannotStart now.runner.shownLine cause))) ∧
        (∀ fault, now.runner.start answer.refusal = .error fault →
          ∀ call : Runner.Call, call.isStart = true →
            (now.runner.perform answer call).1 = .error fault ∧
              now.after (.call call answer) = now) ∧
        (∀ next, now.runner.start answer.refusal = .ok next → ∀ seconds,
          now.runner.perform answer (.run seconds) = next.perform answer (.wait seconds) ∧
            now.after (.call (.run seconds) answer) =
              (now.after (.call .runAsync answer)).after (.call (.wait seconds) answer)) ∧
        -- A wait.
        (∀ seconds, now.runner.isRunning = true → answer.endsInTime = none →
          (now.runner.perform answer (.wait seconds)).1 =
            .error (.process (.stillRunning now.runner.shownLine seconds))) ∧
        (∀ seconds fault, (now.runner.perform answer (.wait seconds)).1 = .error fault →
          now.after (.call (.wait seconds) answer) = now) ∧
        -- The end of a process that is told to.
        (now.runner.perform answer .terminate).1 = .ok .nothing ∧
          (now.after (.call .terminate answer)).alive = 0 := by
  intro now
  have hsettled : now.Settled := by
    have hblank : (ofRunner r).Settled := List.not_mem_nil
    exact hblank.afterAll happenings
  refine ⟨?_, ?_, fun answer => ⟨?_, ?_, ?_, ?_, ?_, ?_, rfl, ?_⟩⟩
  · rw [alive_eq hsettled]
    split_ifs <;> decide
  · rw [alive_eq hsettled]
    split_ifs with hrunning
    · exact iff_of_true rfl hrunning
    · exact iff_of_false (by decide) hrunning
  · exact fun hrunning => Runner.start_of_isRunning hrunning _
  · intro cause hresting hrefusal
    rw [hrefusal, Runner.start_of_system hresting]
  · intro fault hstart call hcall
    exact ⟨congrArg Prod.fst (Runner.perform_of_start_eq_error hstart hcall),
      after_of_start_eq_error hstart hcall⟩
  · intro next hstart seconds
    exact ⟨(Runner.perform_of_start_eq_ok hstart).2 seconds, after_run hstart seconds⟩
  · exact fun seconds hrunning hlate => Runner.perform_wait_of_alive hrunning hlate seconds
  · exact fun seconds fault hwait => after_of_wait_eq_error hwait
  · rw [alive_eq (hsettled.after _)]
    exact if_neg (Bool.not_eq_true _ ▸ Runner.isRunning_childEnds _ _)

end Household

end FixtureKeywords
