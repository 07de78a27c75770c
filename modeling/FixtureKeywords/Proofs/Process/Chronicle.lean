import FixtureKeywords.Process.Runner
import Mathlib.Tactic.SplitIfs

/-!
# What a runner remembers of its runs

A chronicle lists the completed runs of a command, the last one first, and says whether a
run is going on. It is kept by somebody who watches the machine: a run begins when the
machine starts the command, and it is completed when its process ends, whether by itself,
told to, or in time while it is waited for.

A runner takes notice of an end when it is waited for or asked for the last code. Until the
next start it can still do so, since it holds the process that ended. A start puts another
process in its place, and with it goes the code of a run that nobody asked for. What the
runner tells is therefore the code of the last run that was noticed, and while no process
is running that of the last run.
-/
namespace FixtureKeywords

/-- A run that is over; `noticed` says that the runner was waited for or asked in time. -/
structure CompletedRun where
  code : Int
  noticed : Bool
deriving DecidableEq, Repr

structure Chronicle where
  running : Bool
  completed : List CompletedRun
deriving DecidableEq, Repr

namespace Chronicle

def blank : Chronicle := ⟨false, []⟩

def begun (c : Chronicle) : Chronicle :=
  { c with running := true }

def ended (run : CompletedRun) (c : Chronicle) : Chronicle :=
  ⟨false, run :: c.completed⟩

/-- The last completed run is noticed. -/
def seen (c : Chronicle) : Chronicle :=
  { c with completed := c.completed.modifyHead fun run => { run with noticed := true } }

/-- What an event adds to a chronicle. A start is refused while a run is going on. -/
def after (c : Chronicle) : Runner.Event → Chronicle
  | .childEnds code => if c.running then c.ended ⟨code, false⟩ else c
  -- A process that does not end in time is left running.
  | .call (.run _) answer =>
      if c.running ∨ answer.refusal.isSome then c
      else match answer.endsInTime with
        | some code => c.ended ⟨code, true⟩
        | none => c.begun
  | .call .runAsync answer => if c.running ∨ answer.refusal.isSome then c else c.begun
  | .call (.wait _) answer =>
      if c.running then
        match answer.endsInTime with
        | some code => c.ended ⟨code, true⟩
        | none => c
      else c.seen
  | .call .terminate answer => if c.running then c.ended ⟨answer.codeWhenTold, false⟩ else c
  | .call .isRunning _ => c
  | .call .lastExitCode _ => if c.running then c else c.seen

def afterAll (c : Chronicle) (events : List Runner.Event) : Chronicle :=
  events.foldl after c

def lastCode (c : Chronicle) : Option Int :=
  c.completed.head?.map CompletedRun.code

/-- The code of the last completed run that was noticed. -/
def noticedCode (c : Chronicle) : Option Int :=
  (c.completed.find? CompletedRun.noticed).map CompletedRun.code

/-- The chronicle tells what the runner holds: its process and the code it recorded. -/
structure Tells (c : Chronicle) (r : Runner) : Prop where
  child : r.child = if c.running then some .alive else c.lastCode.map .ended
  recorded : r.recorded = c.noticedCode

variable {c : Chronicle} {r : Runner}

theorem noticedCode_ended (run : CompletedRun) (c : Chronicle) :
    (c.ended run).noticedCode = if run.noticed then some run.code else c.noticedCode := by
  unfold noticedCode ended
  rw [List.find?_cons]
  cases run.noticed with
  | true => rfl
  | false => rfl

theorem lastCode_seen (c : Chronicle) : c.seen.lastCode = c.lastCode := by
  unfold lastCode seen
  cases c.completed with
  | nil => rfl
  | cons run runs => rfl

theorem noticedCode_seen (c : Chronicle) : c.seen.noticedCode = c.lastCode := by
  unfold noticedCode seen lastCode
  cases c.completed with
  | nil => rfl
  | cons run runs => rfl

theorem noticedCode_of_lastCode_eq_none (h : c.lastCode = none) : c.noticedCode = none := by
  unfold lastCode at h
  unfold noticedCode
  cases hruns : c.completed with
  | nil => rfl
  | cons run runs => simp [hruns] at h

namespace Tells

theorem isRunning_eq (h : c.Tells r) : r.isRunning = c.running := by
  unfold Runner.isRunning
  rw [h.child]
  cases c.running with
  | true => rfl
  | false => cases c.lastCode <;> rfl

theorem ended (code : Int) (h : c.Tells r) :
    (c.ended ⟨code, false⟩).Tells { r with child := some (.ended code) } :=
  ⟨rfl, h.recorded.trans (noticedCode_ended ⟨code, false⟩ c).symm⟩

theorem ended_noticed (code : Int) (c : Chronicle) (r : Runner) :
    (c.ended ⟨code, true⟩).Tells
      { r with child := some (.ended code), recorded := some code } :=
  ⟨rfl, (noticedCode_ended ⟨code, true⟩ c).symm⟩

theorem childEnds (h : c.Tells r) (code : Int) :
    Tells (if c.running then c.ended ⟨code, false⟩ else c) (r.childEnds code) := by
  unfold Runner.childEnds
  rw [h.isRunning_eq]
  split_ifs
  · exact h.ended code
  · exact h

/-- While no process is running the runner holds the one that ended last, if any, and by
taking notice of it records the last code. -/
theorem resting (h : c.Tells r) (hrunning : c.running = false) :
    (r.child = none ∧ c.lastCode = none ∧ c.seen.Tells r) ∨
      ∃ code, r.child = some (.ended code) ∧ c.lastCode = some code ∧
        c.seen.Tells ⟨r.command, some (.ended code), some code⟩ := by
  have hchild := h.child
  rw [hrunning, if_neg Bool.false_ne_true] at hchild
  have hsame : r.child = if c.seen.running then some .alive else c.seen.lastCode.map .ended := by
    rw [lastCode_seen]
    exact h.child
  cases hcode : c.lastCode with
  | none =>
      rw [hcode] at hchild
      refine .inl ⟨hchild, rfl, hsame, ?_⟩
      rw [noticedCode_seen, hcode, h.recorded, noticedCode_of_lastCode_eq_none hcode]
  | some code =>
      rw [hcode] at hchild
      refine .inr ⟨code, hchild, rfl, hchild.symm.trans hsame, ?_⟩
      rw [noticedCode_seen, hcode]

theorem child_alive (h : c.Tells r) (hrunning : c.running = true) : r.child = some .alive := by
  rw [h.child, if_pos hrunning]

/-- A runner that is asked tells the code of the last run while no process is running, and
otherwise that of the last run that was noticed. -/
theorem lastExitCode (h : c.Tells r) :
    r.lastExitCode.1 = (if c.running then c.noticedCode else c.lastCode) ∧
      Tells (if c.running then c else c.seen) r.lastExitCode.2 := by
  unfold Runner.lastExitCode
  cases hrunning : c.running with
  | true =>
      rw [h.child_alive hrunning]
      exact ⟨h.recorded, h⟩
  | false =>
      rcases h.resting hrunning with ⟨hchild, hcode, hseen⟩ | ⟨code, hchild, hcode, hseen⟩
      · rw [hchild, hcode]
        exact ⟨h.recorded.trans (noticedCode_of_lastCode_eq_none hcode), hseen⟩
      · rw [hchild, hcode]
        exact ⟨rfl, hseen⟩

theorem wait (h : c.Tells r) (endsInTime : Option Int) (seconds : String) :
    Tells (if c.running then
        match endsInTime with
        | some code => c.ended ⟨code, true⟩
        | none => c
      else c.seen) (r.wait endsInTime seconds).2 := by
  unfold Runner.wait
  cases hrunning : c.running with
  | true =>
      rw [h.child_alive hrunning]
      cases endsInTime with
      | none => exact h
      | some code => exact ended_noticed code c r
  | false =>
      rcases h.resting hrunning with ⟨hchild, -, hseen⟩ | ⟨code, hchild, -, hseen⟩
      · rw [hchild]
        exact hseen
      · rw [hchild]
        exact hseen

/-- A start succeeds unless a run is going on or the machine refuses it. -/
theorem start (h : c.Tells r) (refusal : Option Refusal) :
    if c.running ∨ refusal.isSome then ∃ fault, r.start refusal = .error fault
    else r.start refusal = .ok { r with child := some .alive } := by
  unfold Runner.start
  rw [h.isRunning_eq]
  cases c.running with
  | true => simp
  | false => rcases refusal with _ | _ | _ <;> simp

theorem runAsync (h : c.Tells r) (answer : MachineAnswer) :
    Tells (if c.running ∨ answer.refusal.isSome then c else c.begun)
      (r.perform answer .runAsync).2 := by
  have hstart := h.start answer.refusal
  unfold Runner.perform
  split_ifs at hstart ⊢
  · obtain ⟨fault, hfault⟩ := hstart
    rw [hfault]
    exact h
  · rw [hstart]
    exact ⟨rfl, h.recorded⟩

theorem run (h : c.Tells r) (answer : MachineAnswer) (seconds : String) :
    Tells (if c.running ∨ answer.refusal.isSome then c
      else match answer.endsInTime with
        | some code => c.ended ⟨code, true⟩
        | none => c.begun) (r.run answer seconds).2 := by
  have hstart := h.start answer.refusal
  unfold Runner.run
  split_ifs at hstart ⊢
  · obtain ⟨fault, hfault⟩ := hstart
    rw [hfault]
    exact h
  · rw [hstart]
    have hbegun : c.begun.Tells { r with child := some .alive } := ⟨rfl, h.recorded⟩
    exact hbegun.wait answer.endsInTime seconds

theorem after (h : c.Tells r) (e : Runner.Event) : (c.after e).Tells (r.after e) := by
  cases e with
  | childEnds code => exact h.childEnds code
  | call call answer =>
      cases call with
      | run seconds => exact h.run answer seconds
      | runAsync => exact h.runAsync answer
      | wait seconds => exact h.wait answer.endsInTime seconds
      | terminate => exact h.childEnds answer.codeWhenTold
      | isRunning => exact h
      | lastExitCode => exact h.lastExitCode.2

theorem afterAll (h : c.Tells r) (events : List Runner.Event) :
    (c.afterAll events).Tells (r.afterAll events) := by
  induction events generalizing c r with
  | nil => exact h
  | cons e events ih => exact ih (h.after e)

end Tells

theorem noticedCode_eq_lastCode (h : ∀ run ∈ c.completed.head?, run.noticed = true) :
    c.noticedCode = c.lastCode := by
  unfold noticedCode lastCode
  cases hruns : c.completed with
  | nil => rfl
  | cons run runs =>
      have hnoticed : run.noticed = true := h run (by rw [hruns]; rfl)
      rw [List.find?_cons_of_pos hnoticed]
      rfl

end Chronicle

namespace Runner

open Chronicle (blank)

theorem ofWords_eq_ok {command : List Text} {r : Runner} (h : ofWords command = .ok r) :
    r = ⟨command, none, none⟩ := by
  unfold ofWords at h
  split at h
  · cases h
  · split_ifs at h
    cases h
    rfl

theorem ofLine_eq_ok {line : Text} {r : Runner} (h : ofLine line = .ok r) :
    ∃ command, r = ⟨command, none, none⟩ := by
  unfold ofLine at h
  split_ifs at h
  cases hwords : Text.words (Text.strip line) with
  | error fault =>
      rw [hwords] at h
      cases h
  | ok command =>
      rw [hwords] at h
      cases h
      exact ⟨command, rfl⟩

theorem blank_tells {command : Datum} {r : Runner} (h : ofDatum command = .ok r) :
    blank.Tells r := by
  have hnew : ∃ words, r = ⟨words, none, none⟩ := by
    cases command with
    | list items => exact ⟨_, ofWords_eq_ok h⟩
    | scalar value => exact ofLine_eq_ok h
    | table entries => exact ofLine_eq_ok h
  obtain ⟨words, rfl⟩ := hnew
  exact ⟨rfl, rfl⟩

/-- Whatever happened to a runner, while no process is running it tells the code of the last
run; while one is running it tells that of the last run that was noticed, which is the last
run if that was. -/
theorem lastExitCode_afterAll {command : Datum} {r : Runner} (h : ofDatum command = .ok r)
    (events : List Event) :
    let c := blank.afterAll events
    let told := (r.afterAll events).lastExitCode.1
    told = (if c.running then c.noticedCode else c.lastCode) ∧
      (told = c.lastCode ↔ (c.running = true → c.noticedCode = c.lastCode)) ∧
      ((∀ run ∈ c.completed.head?, run.noticed = true) → told = c.lastCode) := by
  intro c told
  have htold : told = if c.running then c.noticedCode else c.lastCode :=
    ((blank_tells h).afterAll events).lastExitCode.1
  refine ⟨htold, ?_, fun hnoticed => ?_⟩
  · rw [htold]
    split_ifs with hrunning
    · simp [hrunning]
    · simp [hrunning]
  · rw [htold, Chronicle.noticedCode_eq_lastCode hnoticed, ite_self]

/-- A run that is waited for is remembered while the next one goes on. -/
theorem lastExitCode_afterAll_waited :
    let command : Datum := .list [.scalar (.text "sleep"), .scalar (.whole 5)]
    let r : Runner := ⟨["sleep".toList, "5".toList], none, none⟩
    let answer : MachineAnswer := ⟨none, some 0, -15⟩
    let events : List Event :=
      [.call .runAsync answer, .call (.wait "None") answer, .call .runAsync answer]
    ofDatum command = .ok r ∧ (r.afterAll events).isRunning = true ∧
      (r.afterAll events).lastExitCode.1 = some 0 := by
  intro command r answer events
  have hr : ofDatum command = .ok r := rfl
  refine ⟨hr, rfl, ?_⟩
  exact (lastExitCode_afterAll hr events).2.2 (by decide)

/-- A run that was told to end is forgotten when the next one starts before the runner was
asked. -/
theorem lastExitCode_forgets :
    let command : Datum := .list [.scalar (.text "sleep"), .scalar (.whole 5)]
    let r : Runner := ⟨["sleep".toList, "5".toList], none, none⟩
    let answer : MachineAnswer := ⟨none, none, -15⟩
    let events : List Event :=
      [.call .runAsync answer, .call .terminate answer, .call .runAsync answer]
    ofDatum command = .ok r ∧ (blank.afterAll events).lastCode = some (-15) ∧
      (r.afterAll events).lastExitCode.1 = none :=
  ⟨rfl, rfl, rfl⟩

end Runner

end FixtureKeywords
