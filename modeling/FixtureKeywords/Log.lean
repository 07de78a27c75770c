/-!
# Log records

A generator says what it is about to do, or has done, in one record. Records go
to named channels below the channel of the package; a channel is named by the
part of the library that writes to it.

`Console` is the state of the package's channel: whether the handler that writes
to the error stream is attached, and the least severity that passes. Configuring
it again changes the severity and attaches nothing.
-/

namespace FixtureKeywords

def packageChannel : String := "ddtgen"

/-- The full name of a channel: a name outside the package is placed below it. -/
def channelName (name : String) : String :=
  if name = packageChannel ∨ (packageChannel ++ ".").toList.isPrefixOf name.toList then name
  else packageChannel ++ "." ++ name

/-- How important a record is. -/
inductive Severity where
  | debug
  | warning
deriving DecidableEq, Repr

namespace Severity

/-- The name that stands in front of a record. -/
def name : Severity → String
  | debug => "DEBUG"
  | warning => "WARNING"

/-- The number that severities are compared by. -/
def rank : Severity → Nat
  | debug => 10
  | warning => 30

end Severity

structure LogRecord where
  severity : Severity
  channel : String
  message : String
deriving DecidableEq, Repr

namespace LogRecord

/-- A record for those who want to see everything, on a channel of the package. -/
def debug (channel message : String) : LogRecord :=
  ⟨.debug, channelName channel, message⟩

def line (r : LogRecord) : String :=
  s!"{r.severity.name} {r.channel}: {r.message}"

end LogRecord

/-- A value with the record that its making left. -/
structure Logged (α : Type) where
  record : LogRecord
  value : α

/-- The package's channel: the severities of its handlers on the error stream, and
the least severity that passes. -/
structure Console where
  handlers : List Severity
  threshold : Option Severity
deriving DecidableEq, Repr

namespace Console

/-- Nothing is attached before the first configuration. -/
def unconfigured : Console := ⟨[], none⟩

/-- Attaches the handler unless there is one, and lets debug records pass if `verbose`. -/
def configure (verbose : Bool) (c : Console) : Console :=
  let severity := if verbose then Severity.debug else .warning
  let handlers := if c.handlers.isEmpty then [severity] else c.handlers
  ⟨handlers.map fun _ => severity, some severity⟩

end Console

end FixtureKeywords
