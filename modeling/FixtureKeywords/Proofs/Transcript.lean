import FixtureKeywords.Method
import Mathlib.Data.List.Basic

/-!
# Transcripts

What is used call by call answers a call or fails, and then is in a new state. A transcript
lists the calls in their order, each with its outcome and with the states before and after.

Some calls start anew. Those that stand are the calls that succeeded since the last such
call. What ties the state to the calls that stand holds at the end of every transcript, if it
holds at the beginning and no entry breaks it.

A thing that draws is supplied by a source. Its state is taken together with that of the
source and with the draws made so far, so an entry that changes nothing made no draw.
-/
namespace FixtureKeywords

/-- A call that was made. -/
structure Entry (State Call Answer : Type) where
  before : State
  call : Call
  outcome : Except Fault Answer
  after : State

namespace Transcript
variable {State Call Answer : Type}

section
variable (respond : State → Call → Except Fault Answer × State)

def entry (s : State) (call : Call) : Entry State Call Answer :=
  ⟨s, call, (respond s call).1, (respond s call).2⟩

def entries (s : State) : List Call → List (Entry State Call Answer)
  | [] => []
  | call :: calls => entry respond s call :: entries (entry respond s call).after calls

def final (s : State) (calls : List Call) : State :=
  calls.foldl (fun s call => (entry respond s call).after) s

theorem length_entries (s : State) (calls : List Call) :
    (entries respond s calls).length = calls.length := by
  induction calls generalizing s with
  | nil => rfl
  | cons call calls ih => rw [entries, List.length_cons, ih, List.length_cons]

theorem entries_append (s : State) (calls more : List Call) :
    entries respond s (calls ++ more) =
      entries respond s calls ++ entries respond (final respond s calls) more := by
  induction calls generalizing s with
  | nil => rfl
  | cons call calls ih => simp only [List.cons_append, entries, ih]; rfl

theorem final_append (s : State) (calls more : List Call) :
    final respond s (calls ++ more) = final respond (final respond s calls) more :=
  List.foldl_append

/-- Behind a call the transcript goes on from the state that the call left. -/
theorem drop_entries (s : State) (calls : List Call) (call : Call) (more : List Call) :
    (entries respond s (calls ++ call :: more)).drop (calls.length + 1) =
      entries respond (entry respond (final respond s calls) call).after more := by
  rw [entries_append, ← List.drop_drop, List.drop_left' (length_entries respond s calls)]
  rfl

end

def stand (renews : Call → Bool) (standing : List (Entry State Call Answer))
    (e : Entry State Call Answer) : List (Entry State Call Answer) :=
  match e.outcome with
  | .error _ => standing
  | .ok _ => if renews e.call then [] else standing ++ [e]

/-- The calls that succeeded since the last one that started anew. -/
def standing (renews : Call → Bool) (entries : List (Entry State Call Answer)) :
    List (Entry State Call Answer) :=
  entries.foldl (stand renews) []

section
variable {respond : State → Call → Except Fault Answer × State} {renews : Call → Bool}
  {s : State}

/-- What every entry keeps of the state and the calls that stand, a transcript keeps. -/
theorem keeps (Tells : List (Entry State Call Answer) → State → Prop)
    (hstep : ∀ before s call, Tells before s →
      Tells (stand renews before (entry respond s call)) (entry respond s call).after)
    (hstart : Tells [] s) (calls : List Call) :
    Tells (standing renews (entries respond s calls)) (final respond s calls) := by
  -- The calls that stand at the start are any that tell the state there.
  have hrun (before : List (Entry State Call Answer)) (hbefore : Tells before s) :
      Tells ((entries respond s calls).foldl (stand renews) before) (final respond s calls) := by
    clear hstart
    induction calls generalizing s before with
    | nil => exact hbefore
    | cons call calls ih => exact ih _ (hstep before s call hbefore)
  exact hrun [] hstart

theorem stand_ok {before : List (Entry State Call Answer)} {e : Entry State Call Answer}
    {answer : Answer} (h : e.outcome = .ok answer) :
    stand renews before e = if renews e.call then [] else before ++ [e] := by
  simp only [stand, h]

theorem stand_error {before : List (Entry State Call Answer)} {e : Entry State Call Answer}
    {fault : Fault} (h : e.outcome = .error fault) : stand renews before e = before := by
  simp only [stand, h]

end

end Transcript

theorem DrawProgram.draws_bind {α β σ : Type} (source : Source σ) (p : DrawProgram α)
    (f : α → DrawProgram β) (state : σ) :
    (p.bind f).draws source state = p.draws source state ++
      (f (p.run source state).1).draws source (p.run source state).2 := by
  induction p generalizing state with
  | done value => rfl
  | ask request next ih => simp only [bind, draws, run, ih, List.cons_append]

/-- A thing with the source that supplies it and the draws that were made. -/
structure Supplied (Thing σ : Type) where
  thing : Thing
  source : σ
  drawn : List Draw

namespace Supplied
variable {Thing Call Answer σ : Type} (act : Call → Method DrawProgram Thing Answer)
  (source : Source σ)

/-- Makes a call. What a call that fails has drawn stays drawn. -/
def respond (s : Supplied Thing σ) (call : Call) : Except Fault Answer × Supplied Thing σ :=
  let program := Method.call (act call) s.thing
  let ((outcome, next), state) := program.run source s.source
  (outcome, ⟨next, state, s.drawn ++ program.draws source s.source⟩)

/-- A program makes the calls of a transcript: its value lists the outcomes and the things
behind them, and it leaves the source as the transcript does, with the same draws. -/
structure Makes (s : Supplied Thing σ) (calls : List Call)
    (program : DrawProgram (List (Except Fault Answer × Thing))) : Prop where
  listed : (program.run source s.source).1 =
    (Transcript.entries (respond act source) s calls).map fun e => (e.outcome, e.after.thing)
  supply : (program.run source s.source).2 =
    (Transcript.final (respond act source) s calls).source
  drawing : s.drawn ++ program.draws source s.source =
    (Transcript.final (respond act source) s calls).drawn

/-- Behind its first `made` values, a program goes on as `rest` does from `now`. -/
structure Resumes (s now : Supplied Thing σ) (made : Nat)
    (program rest : DrawProgram (List (Except Fault Answer × Thing))) : Prop where
  listed : (program.run source s.source).1.drop made = (rest.run source now.source).1
  supply : (program.run source s.source).2 = (rest.run source now.source).2
  drawing : s.drawn ++ program.draws source s.source =
    now.drawn ++ rest.draws source now.source

variable {act source} {s : Supplied Thing σ}

theorem respond_done (source : Source σ) {call : Call} {outcome : Except Fault Answer}
    {next : Thing} (h : Method.call (act call) s.thing = pure (outcome, next)) :
    respond act source s call = (outcome, { s with thing := next }) := by
  unfold respond
  rw [h]
  exact congrArg (fun drawn => (outcome, (⟨next, s.source, drawn⟩ : Supplied Thing σ)))
    (List.append_nil s.drawn)

theorem respond_map (source : Source σ) {call : Call} {α : Type} {program : DrawProgram α}
    {f : α → Except Fault Answer × Thing}
    (h : Method.call (act call) s.thing = program.map f) :
    let result := f (program.run source s.source).1
    respond act source s call = (result.1, ⟨result.2, (program.run source s.source).2,
      s.drawn ++ program.draws source s.source⟩) := by
  simp only [respond, h, DrawProgram.run_map, DrawProgram.draws_map]

theorem makes_callAll (act : Call → Method DrawProgram Thing Answer) (source : Source σ)
    (s : Supplied Thing σ) (calls : List Call) :
    Makes act source s calls (Method.callAll act s.thing calls) := by
  induction calls generalizing s with
  | nil => exact ⟨rfl, rfl, List.append_nil _⟩
  | cons call calls ih =>
      obtain ⟨hlisted, hsupply, hdrawing⟩ := ih (respond act source s call).2
      have hprogram : Method.callAll act s.thing (call :: calls) =
          (Method.call (act call) s.thing).bind fun result =>
            (Method.callAll act result.2 calls).map (result :: ·) := by
        simp only [DrawProgram.map_eq_bind]
        rfl
      rw [hprogram]
      refine ⟨?_, ?_, ?_⟩
      · rw [DrawProgram.run_bind, DrawProgram.run_map]
        exact congrArg (_ :: ·) hlisted
      · rw [DrawProgram.run_bind, DrawProgram.run_map]
        exact hsupply
      · rw [DrawProgram.draws_bind, DrawProgram.draws_map, ← List.append_assoc]
        exact hdrawing

/-- What is made of all calls goes on, behind some of them, as what is made of the others. -/
theorem Makes.resumes {calls more : List Call}
    {program rest : DrawProgram (List (Except Fault Answer × Thing))}
    (h : Makes act source s (calls ++ more) program)
    (hrest : Makes act source (Transcript.final (respond act source) s calls) more rest) :
    Resumes source s (Transcript.final (respond act source) s calls) calls.length
      program rest := by
  obtain ⟨hlisted, hsupply, hdrawing⟩ := h
  rw [Transcript.entries_append, List.map_append] at hlisted
  rw [Transcript.final_append] at hsupply hdrawing
  refine ⟨?_, hsupply.trans hrest.supply.symm, hdrawing.trans hrest.drawing.symm⟩
  rw [hlisted, hrest.listed]
  exact List.drop_left' (by rw [List.length_map, Transcript.length_entries])

theorem Makes.resumes_behind {calls more : List Call} {call : Call}
    {program rest : DrawProgram (List (Except Fault Answer × Thing))}
    (h : Makes act source s (calls ++ call :: more) program)
    (hrest : Makes act source (Transcript.entry (respond act source)
      (Transcript.final (respond act source) s calls) call).after more rest) :
    Resumes source s (Transcript.entry (respond act source)
      (Transcript.final (respond act source) s calls) call).after (calls.length + 1)
      program rest := by
  have hfinal : Transcript.final (respond act source) s (calls ++ [call]) =
      (Transcript.entry (respond act source)
        (Transcript.final (respond act source) s calls) call).after :=
    Transcript.final_append _ s calls [call]
  rw [← hfinal] at hrest ⊢
  rw [List.append_cons] at h
  have hresumes := h.resumes hrest
  rwa [List.length_append] at hresumes

end Supplied

end FixtureKeywords
