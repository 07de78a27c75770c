import FixtureKeywords.Command.Line
import FixtureKeywords.Command.Stream
import FixtureKeywords.Settings.Load

/-!
# Running a command

A command is answered by an exit: 0 after success, 2 for a wrong keyword, 3 for a
wrong argument, 4 for a configuration that cannot be loaded. Some faults are none
of these; they break the run off.

The values of a request are generated in rounds, from one source. In every round the
keyword is read anew, and the value is printed before the next round begins.

What a run needs from outside is collected in `World`: files, environment, clocks,
a source for runs without a seed, the libraries that read markup and lay out datetimes,
and standard output. A layout or a line that is refused is known by the kind of its fault.
-/

namespace FixtureKeywords

/-- What a run needs from outside. -/
structure World where
  files : String → Except Fault Text
  markup : Text → Except Fault Document
  environment : List (String × String)
  around : Surroundings
  unseeded : Twister
  layout : Moment → Text → Except String String
  stdout : Stream

inductive Ending where
  | exit (code : Nat) (message : Option String)
  | wrongUse
  | broken (fault : Fault)
deriving DecidableEq, Repr

/-- What a run prints, what it logs, and how it ends. -/
structure RunReport where
  printed : List String
  logged : List LogRecord
  ending : Ending
deriving DecidableEq, Repr

def RunReport.behind (line : String) (record : LogRecord) (r : RunReport) : RunReport :=
  { r with printed := line :: r.printed, logged := record :: r.logged }

namespace Command

/-- A path as it is named: without empty parts and parts that stay in the folder. -/
def plainPath (t : Text) : Text :=
  let rooted := t.head? == some '/'
  let parts := (t.splitOn '/').filter fun part => !part.isEmpty && part != ['.']
  let joined := "/".toList.intercalate parts
  if rooted then '/' :: joined else if joined.isEmpty then ['.'] else joined

/-- The message of a fault in loading that is handled. An invalid configuration, an
unsuitable value and a fault of the operating system are. -/
def loadMessage? (fault : Fault) : Option String :=
  match fault with
  | .configuration issues =>
      let n := issues.length
      let plural := if n = 1 then "" else "s"
      some s!"{n} validation error{plural} for ConfigModel"
  | .numeralTooLong digits =>
      some s!"Exceeds the limit (4300 digits) for integer string conversion: value has {digits} digits; use sys.set_int_max_str_digits() to increase the limit"
  | .scalar cause => some cause.message
  | .unsuitable message => some message
  | .system cause => some cause.message
  | _ => none

def endsLine (c : Char) : Bool :=
  c.toNat ∈ [0x0A, 0x0B, 0x0C, 0x0D, 0x1C, 0x1D, 0x1E, 0x85, 0x2028, 0x2029]

/-- How a fault in loading ends a run. A fault that is handled is told by the first line of
its message, which is looked up although the message may have none. -/
def loadEnding (fault : Fault) : Ending :=
  match (loadMessage? fault).map String.toList with
  | none => .broken fault
  | some [] => .broken (.foreign "IndexError")
  | some message =>
      let line := message.takeWhile fun c => !endsLine c
      .exit 4 (if line.isEmpty then none else some (String.ofList line))

def settings (world : World) (config : Option Text) : Except Fault Settings := do
  let file ← config.mapM fun path => world.files (String.ofList (plainPath path))
  Settings.load world.markup file world.environment

def written (world : World) (s : Settings) (value : Value) : Except Fault String :=
  match value with
  | .text t => .ok (String.ofList t)
  | .integer n => if Text.isWritable n then .ok (toString n) else .error .integerTooLong
  | .moment m =>
      if s.outputFormat = "iso" then .ok m.iso
      else (world.layout m s.outputFormat.toList).mapError .foreign

def printed (world : World) (s : Settings) (value : Value) : Except Fault String := do
  (world.stdout (← written world s value)).mapError .foreign

def keywordEnding (fault : Fault) : Ending :=
  match fault with
  | .format cause => .exit 2 (some cause.message)
  | .argument cause => .exit 3 (some cause.message)
  | other => .broken other

def withSeed (seed : Option Text) (s : Settings) : Except Fault Settings :=
  match seed with
  | some raw => (Seed.ofText raw).map fun seed => { s with seed := some seed }
  | none => .ok s

variable [Almanac]

/-- Generates and prints a value in every round. A round is given by what is around it; it
goes on with the source as the round before it left it. A fault ends the run. -/
def printRounds (world : World) (keyword : Text) (s : Settings) (source : Twister) :
    List Surroundings → RunReport
  | [] => ⟨[], [], .exit 0 none⟩
  | around :: rounds =>
      match Value.generate (.text (String.ofList keyword)) s.defaults around with
      | .error fault => ⟨[], [], keywordEnding fault⟩
      | .ok program =>
          let (out, source) := program.run Twister.source source
          match printed world s out.value with
          | .error fault => ⟨[], [out.record], keywordEnding fault⟩
          | .ok line => (printRounds world keyword s source rounds).behind line out.record

def printValues (world : World) (request : GenerateRequest) (s : Settings)
    (rounds : List Surroundings) : RunReport :=
  printRounds world request.keyword s ((s.seed.map Seed.start).getD world.unseeded) rounds

/-- Runs `generate`, with these rounds. -/
def runRounds (world : World) (request : GenerateRequest) (rounds : List Surroundings) :
    RunReport :=
  match settings world request.config with
  | .error fault => ⟨[], [], loadEnding fault⟩
  | .ok s =>
      match withSeed request.seed s with
      | .error fault => ⟨[], [], .broken fault⟩
      | .ok s => printValues world request s rounds

/-- Runs `generate`. The clock is taken to stand still meanwhile. -/
def runGenerate (world : World) (request : GenerateRequest) : RunReport :=
  runRounds world request (List.replicate request.count world.around)

/-- Runs `check`. -/
def runCheck (world : World) (keyword : Text) : RunReport :=
  match Keyword.read (.text (String.ofList keyword)) with
  | .error fault => ⟨[], [], keywordEnding fault⟩
  | .ok k =>
      match world.stdout k.family.name with
      | .error kind => ⟨[], [], .broken (.foreign kind)⟩
      | .ok line => ⟨[line], [], .exit 0 none⟩

def run (world : World) : Command → RunReport
  | generate request => runGenerate world request
  | check keyword => runCheck world keyword

def runWords (world : World) (words : List Text) : RunReport :=
  match read? words with
  | some command => run world command
  | none => ⟨[], [], .wrongUse⟩

end Command

end FixtureKeywords
