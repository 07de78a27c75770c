import FixtureKeywords.Datum
import FixtureKeywords.Text.Words

/-!
# Process runners

A runner starts one command, again and again if asked to, and remembers the code
with which a run ended. At most one child runs at a time. A child may end at any
moment by itself; the runner takes notice when it is asked for the last code or
waits.

The machine around a runner appears as data: a child that ends by itself is an
event, and each call comes with the answers of the machine to it.
-/

namespace FixtureKeywords

/-- The process that a runner started last. -/
inductive Child where
  | alive
  | ended (code : Int)
deriving DecidableEq, Repr

/-- A command and what is known of its runs. -/
structure Runner where
  command : List Text
  child : Option Child
  recorded : Option Int
deriving DecidableEq, Repr

/-- Why a machine does not start a command. -/
inductive Refusal where
  | system (cause : SystemFault)
  | zeroByte
deriving DecidableEq, Repr

/-- What the machine does during one call: whether it refuses to start the command,
the code with which the child ends in time if it is waited for, and the code with
which it ends if it is told to. -/
structure MachineAnswer where
  refusal : Option Refusal
  endsInTime : Option Int
  codeWhenTold : Int
deriving DecidableEq, Repr

namespace Runner

def ofWords (command : List Text) : Except Fault Runner :=
  match command with
  | [] => .error (.argument .emptyCommand)
  | program :: _ =>
      if Text.isBlankText program then .error (.argument .emptyCommand)
      else .ok ⟨command, none, none⟩

def ofLine (line : Text) : Except Fault Runner :=
  if Text.isBlankText line then .error (.argument .emptyCommand)
  else (Text.words (Text.strip line)).map fun command => ⟨command, none, none⟩

/-- A runner for what a user gives: a command line, or a list of words and other
data. -/
def ofDatum (command : Datum) : Except Fault Runner :=
  match command with
  | .list items => ofWords (items.map fun d => d.shown.toList)
  | d => ofLine d.shown.toList

def line (r : Runner) : Text :=
  Text.join r.command

/-- The command line for messages. -/
def shownLine (r : Runner) : String :=
  String.ofList r.line

def shown (r : Runner) : String :=
  "ProcessRunner(" ++ Text.quoted r.line ++ ")"

def isRunning (r : Runner) : Bool :=
  r.child = some .alive

/-- The code of the last run that ended, as far as the runner has noticed, taking
notice of the child now; and the runner that has noticed it. -/
def lastExitCode (r : Runner) : Option Int × Runner :=
  match r.child with
  | some (.ended code) => (some code, { r with recorded := some code })
  | _ => (r.recorded, r)

def childEnds (code : Int) (r : Runner) : Runner :=
  if r.isRunning then { r with child := some (.ended code) } else r

/-- Starts the command, unless the child is running. -/
def start (refusal : Option Refusal) (r : Runner) : Except Fault Runner :=
  if r.isRunning then .error (.process (.alreadyRunning r.shown))
  else
    match refusal with
    | some (.system cause) => .error (.process (.cannotStart r.shownLine cause))
    | some .zeroByte => .error .zeroByte
    | none => .ok { r with child := some .alive }

/-- Waits for the child, which ends in time with a code or not at all; `seconds` is
the patience as it is written. -/
def wait (endsInTime : Option Int) (seconds : String) (r : Runner) :
    Except Fault Int × Runner :=
  match r.child with
  | none => (.error (.process (.notStarted r.shown)), r)
  | some (.ended code) => (.ok code, { r with recorded := some code })
  | some .alive =>
      match endsInTime with
      | some code => (.ok code, { r with child := some (.ended code), recorded := some code })
      | none => (.error (.process (.stillRunning r.shownLine seconds)), r)

/-- Starts the command and waits for it. -/
def run (answer : MachineAnswer) (seconds : String) (r : Runner) : Except Fault Int × Runner :=
  match r.start answer.refusal with
  | .error fault => (.error fault, r)
  | .ok r => r.wait answer.endsInTime seconds

/-- Tells the child to end and waits until it has. -/
def terminate (code : Int) (r : Runner) : Runner :=
  r.childEnds code

/-- A call of a user. -/
inductive Call where
  | run (seconds : String)
  | runAsync
  | wait (seconds : String)
  | terminate
  | isRunning
  | lastExitCode
deriving DecidableEq, Repr

/-- The answer to a call that succeeds. -/
inductive Answer where
  | nothing
  | truth (b : Bool)
  | code (code : Option Int)
deriving DecidableEq, Repr

/-- Performs one call: its outcome and the runner after it. -/
def perform (answer : MachineAnswer) (r : Runner) : Call → Except Fault Answer × Runner
  | .run seconds =>
      let (outcome, r) := r.run answer seconds
      (outcome.map fun code => .code (some code), r)
  | .runAsync =>
      match r.start answer.refusal with
      | .error fault => (.error fault, r)
      | .ok r => (.ok .nothing, r)
  | .wait seconds =>
      let (outcome, r) := r.wait answer.endsInTime seconds
      (outcome.map fun code => .code (some code), r)
  | .terminate => (.ok .nothing, r.terminate answer.codeWhenTold)
  | .isRunning => (.ok (.truth r.isRunning), r)
  | .lastExitCode =>
      let (code, r) := r.lastExitCode
      (.ok (.code code), r)

/-- Something that happens to a runner. -/
inductive Event where
  | childEnds (code : Int)
  | call (call : Call) (answer : MachineAnswer)
deriving DecidableEq, Repr

def after (r : Runner) : Event → Runner
  | .childEnds code => r.childEnds code
  | .call call answer => (r.perform answer call).2

def afterAll (r : Runner) (events : List Event) : Runner :=
  events.foldl after r

end Runner

end FixtureKeywords
