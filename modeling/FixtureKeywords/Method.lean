import FixtureKeywords.Fault
import FixtureKeywords.Random.DrawProgram

/-!
# Methods

The body of a method reads and assigns the state of its object, step by step, and may
fail. What it assigned before it failed stays assigned, and what it drew stays drawn, so
the order of its steps decides what a failure leaves behind.
-/

namespace FixtureKeywords

abbrev Method (m : Type → Type) (Object α : Type) : Type :=
  ExceptT Fault (StateT Object m) α

namespace Method
variable {m : Type → Type} [Monad m] {Object Call Answer α : Type}

/-- Goes on with the value of an outcome, or fails as it does. -/
def ofOutcome (outcome : Except Fault α) : Method m Object α :=
  ExceptT.mk (pure outcome)

def draw (program : DrawProgram α) : Method DrawProgram Object α :=
  liftM program

/-- Assigns what is made of the object, unless that fails. -/
def assign (make : Object → Except Fault Object) : Method m Object Unit := do
  set (← ofOutcome (make (← get)))

/-- Calls a method: its outcome, and the object after it. -/
def call (body : Method m Object α) (object : Object) : m (Except Fault α × Object) :=
  body.run.run object

/-- Makes calls in order, whatever their outcomes. Each one is listed with its outcome
and the object after it. -/
def callAll (body : Call → Method m Object Answer) (object : Object) :
    List Call → m (List (Except Fault Answer × Object))
  | [] => pure []
  | c :: calls => do
      let (outcome, object) ← call (body c) object
      let more ← callAll body object calls
      pure ((outcome, object) :: more)

section
variable {β : Type} (object : Object)

@[simp] theorem call_bind (body : Method m Object α) (more : α → Method m Object β) :
    call (body >>= more) object = call body object >>= fun result =>
      match result.1 with
      | .ok value => call (more value) result.2
      | .error fault => pure (.error fault, result.2) := by
  refine congrArg (call body object >>= ·) (funext fun result => ?_)
  rcases result with ⟨fault | value, next⟩
  · rfl
  · rfl

@[simp] theorem call_return (value : α) :
    call (pure value : Method m Object α) object = pure (.ok value, object) := rfl

@[simp] theorem call_ofOutcome (outcome : Except Fault α) :
    call (ofOutcome outcome : Method m Object α) object = pure (outcome, object) := rfl

variable [LawfulMonad m]

/-- A step that cannot fail is a step of the state alone. -/
theorem call_lift (step : StateT Object m α) :
    call (ExceptT.lift step : Method m Object α) object =
      step.run object >>= fun result => pure (.ok result.1, result.2) := by
  change (Except.ok <$> step).run object = _
  rw [StateT.run_map, map_eq_pure_bind]

@[simp] theorem call_get :
    call (get : Method m Object Object) object = pure (.ok object, object) := by
  exact (call_lift object get).trans (by rw [StateT.run_get, pure_bind])

@[simp] theorem call_set (next : Object) :
    call (set next : Method m Object PUnit) object = pure (.ok ⟨⟩, next) := by
  exact (call_lift object (set next)).trans (by rw [StateT.run_set, pure_bind])

@[simp] theorem call_modify (f : Object → Object) :
    call (modify f : Method m Object PUnit) object = pure (.ok ⟨⟩, f object) := by
  exact (call_lift object (modify f)).trans (by rw [StateT.run_modify, pure_bind])

/-- A failure to make anything of the object leaves it as it is. -/
@[simp] theorem call_assign (make : Object → Except Fault Object) :
    call (assign make : Method m Object Unit) object =
      pure (match make object with
        | .error fault => (.error fault, object)
        | .ok next => (.ok (), next)) := by
  simp only [assign, call_bind, call_get, call_ofOutcome, pure_bind]
  cases make object with
  | error fault => rfl
  | ok next => exact call_set object next

variable {object} {make : Object → Except Fault Object}

theorem call_assign_error {fault : Fault} (h : make object = .error fault)
    (more : Unit → Method m Object α) :
    call (assign make >>= more) object = pure (.error fault, object) := by
  rw [call_bind, call_assign, h, pure_bind]

theorem call_assign_ok {next : Object} (h : make object = .ok next)
    (more : Unit → Method m Object α) :
    call (assign make >>= more) object = call (more ()) next := by
  rw [call_bind, call_assign, h, pure_bind]

end

@[simp] theorem call_draw (object : Object) (program : DrawProgram α) :
    call (draw program) object = program.map fun value => (.ok value, object) := by
  rw [DrawProgram.map_eq_bind]
  exact (call_lift object (StateT.lift program)).trans (DrawProgram.bind_assoc _ _ _)

end Method

end FixtureKeywords
