import FixtureKeywords.Calendar.Layout
import FixtureKeywords.Command.Run
import FixtureKeywords.Markup.Reading
import FixtureKeywords.Zone.Recorded
import Std.Time.DateTime.Timestamp

/-!
# The program

Reads what a command needs from outside, runs it, and prints its report. The zone
of the system is taken from the variable `TZ`.
-/

namespace FixtureKeywords

/-- The text of a file, or why it cannot be read. -/
def fileText (path : String) : IO (Except Fault Text) := do
  try
    let content ← IO.FS.readFile path
    return .ok content.toList
  catch _ => return .error (.system (.noEntry path.toList))

def variableOf (name : String) : IO (List (String × String)) := do
  match ← IO.getEnv name with
  | some value => return [(name, value)]
  | none => return []

def outside (command : Option Command) : IO World := do
  let stamp ← Std.Time.Timestamp.now
  let now := stamp.toNanosecondsSinceUnixEpoch.toInt / 1000
  let zone := SystemClock.ofText ((← IO.getEnv "TZ").getD "UTC0").toList now
  let moment := match (Zone.system zone).atInstant now with
    | .ok m => m
    | .error _ => ⟨now, false, .universal⟩
  let config := match command with
    | some (.generate request) => request.config
    | _ => none
  let file ← match config with
    | some path => fileText (String.ofList (Command.plainPath path))
    | none => pure (.ok [])
  let seed ← IO.rand 0 (Nat.pow 2 62)
  let isTerminal ← (← IO.getStdout).isTty
  let world : World :=
    { files := fun _ => file
      markup := Markup.read
      environment := []
      around := ⟨.aware moment, zone⟩
      unseeded := .ofInt seed
      layout := fun m format => .ok (Layout.write m format)
      stdout := if isTerminal then .terminal else .plain }
  match Command.settings world config with
  | .ok s => return { world with environment := ← variableOf s.seedVariable }
  | .error _ => return world

end FixtureKeywords

open FixtureKeywords in
/-- Runs the command that the words write; the exit code tells how it went. -/
def main (words : List String) : IO UInt32 := do
  let words := words.map String.toList
  let command := Command.read? words
  let report := Command.runWords (← outside command) words
  let verbose := match command with
    | some (.generate request) => request.verbose
    | _ => false
  for line in report.printed do
    IO.println line
  if verbose then
    for record in report.logged do
      IO.eprintln record.line
  match report.ending with
  | .exit code message =>
      if let some text := message then
        IO.eprintln text
      return code.toUInt32
  | .wrongUse =>
      IO.eprintln "usage: ddtgen generate KEYWORD [--count N] [--seed TEXT] [--config PATH] [--verbose]\n       ddtgen check KEYWORD"
      return 2
  | .broken _ =>
      IO.eprintln "the run was broken off"
      return 1
