import FixtureKeywords.Integers.Parity
import FixtureKeywords.Keyword.Family
import FixtureKeywords.Text.Numeral
import FixtureKeywords.Text.Quoted

/-!
# Faults

Everything that can go wrong, as causes. A fault is a wrong format of a keyword,
a wrong argument, a failure of a process, an invalid configuration, or one of a
few breakdowns that carry no message of the library: a numeral too long to read,
a scalar without a value, an instant outside the supported years, a text that is no
markup, a configuration that is not a table, and whatever a zone database, a reader
of markup or the operating system reports.

The wording of the first three kinds and of scalars without a value is given by the
`message` functions, one sentence for each cause. Texts are quoted in them as they
were written. A message that an integer would have to be written in, and that is too
long to be written, is never finished: `ArgumentFault.raised` is what comes instead.
-/

namespace FixtureKeywords

/-- Why a text is not a valid keyword. -/
inductive FormatFault where
  | unsupported (text : String)
  | notEnclosed (text : String) (family : Family)
  | repeated (modifier : String) (family : Family) (keyword : String)
  | together (modifiers : List String) (keyword : String)
  | leftover (reduced : String)
  | badInteger (value fragment : String)
  | emptyCharacters (fragment : String)
  | badLength (fragment : String)
  | zeroLength (fragment : String)
  | decreasingLength (fragment : String)
  | badRange (fragment : String)
deriving DecidableEq, Repr

/-- Why a request cannot be met. -/
inductive ArgumentFault where
  | defaultLength (given : Int)
  | charactersNotText (given : String)
  | lengthTwice (fixed : Nat)
  | lengthNotPositive (given : Int)
  | shortestNotPositive (given : Int)
  | decreasingLength (shortest longest : Int)
  | notIncreasing (low high : Int)
  | decreasing (low high : Int)
  | noneOfParity (low high : Int) (parity : Parity)
  | rangeTwice (low high : Int)
  | otherParity (fixed : Parity)
  | badZoneOffset (text : String)
  | badZoneName (text : String)
  | badStart (text : String)
  | startWithoutOffset (text : String)
  | startTwice
  | naiveStart (written : String)
  | zoneTwice
  | unknownUnit (unit : String)
  | offsetTooLarge (amount : Int) (unit : String)
  | resultOutOfReach (calendar clock start : String)
  | emptyCommand
deriving DecidableEq, Repr

/-- What the operating system reports: a number, its reason, and what it is about. -/
structure SystemFault where
  number : Nat
  reason : String
  subject : Option Text
deriving DecidableEq, Repr

/-- Why a process could not be started or waited for. -/
inductive ProcessFault where
  | alreadyRunning (runner : String)
  | cannotStart (command : String) (cause : SystemFault)
  | notStarted (runner : String)
  | stillRunning (command seconds : String)
deriving DecidableEq, Repr

/-- Why a scalar that is written like a number, a date or an escape has no value. -/
inductive ScalarFault where
  | noDigits (base : Nat)
  | noSuchCharacter
  | offsetTooLarge (seconds : Int)
  | yearOutOfRange (year : Nat)
  | monthOutOfRange
  | dayOutOfRange
  | hourOutOfRange
  | minuteOutOfRange
  | secondOutOfRange
deriving DecidableEq, Repr

/-- What is wrong with one entry of a configuration. -/
inductive IssueKind where
  | missing
  | notATable
  | unknownKey
  | keyNotText
  | notAnInteger
  | fractionalInteger
  | unreadableInteger
  | hugeInteger
  | infiniteInteger
  | belowOne
  | notText
  | notAChoice
deriving DecidableEq, Repr

/-- One step of the way to an entry of a configuration. -/
inductive PathStep where
  | key (name : String)
  | number (n : Int)
deriving DecidableEq, Repr

/-- A wrong entry of a configuration. -/
structure Issue where
  path : List PathStep
  kind : IssueKind
deriving DecidableEq, Repr

/-- Everything that can go wrong. -/
inductive Fault where
  | format (cause : FormatFault)
  | argument (cause : ArgumentFault)
  | process (cause : ProcessFault)
  | configuration (issues : List Issue)
  | numeralTooLong (digits : Nat)
  | integerTooLong
  | scalar (cause : ScalarFault)
  /-- An unsuitable value, in the words of another library. -/
  | unsuitable (message : String)
  | system (cause : SystemFault)
  /-- Any other fault of another library, by its kind. -/
  | foreign (kind : String)
  | offsetNotPrintable
  | instantOutOfRange
  | notATable
  | unclosedQuote
  | danglingEscape
  | zeroByte
  | emptyDraw
  | emptyChoice
  | markupStructure
  | markupCharacter
  | escapeTooLarge
  | notPrintable
  | severalDocuments
  | collectionAsKey
deriving DecidableEq, Repr

/-- The wording of a wrong format. -/
def FormatFault.message : FormatFault → String
  | unsupported text =>
      let names := ", ".intercalate (Family.all.map fun f => "[" ++ f.name ++ "]")
      s!"'{text}' is not one of the supported keywords ({names})"
  | notEnclosed text family =>
      let name := family.name
      s!"'{text}' must contain the '[{name}]' keyword"
  | repeated modifier family keyword =>
      let name := family.name
      s!"only one \x7b{modifier}\x7d modifier is allowed per [{name}]: '{keyword}'"
  | together modifiers keyword =>
      let names := " and ".intercalate (modifiers.map fun m => "\x7b" ++ m ++ "\x7d")
      s!"cannot use both {names} in the same keyword: '{keyword}'"
  | leftover reduced =>
      s!"Invalid keyword string; the following remains with the valid modifiers removed: '{reduced}'"
  | badInteger value fragment =>
      s!"'{value}' is not a valid integer in modifier '{fragment}'"
  | emptyCharacters fragment =>
      s!"modifier '{fragment}' must contain at least one character between '[' and ']'"
  | badLength fragment =>
      s!"invalid length modifier '{fragment}'; expected N or N-M"
  | zeroLength fragment =>
      s!"length must be >= 1 in modifier '{fragment}'"
  | decreasingLength fragment =>
      s!"maximum length must be >= minimum length in modifier '{fragment}'"
  | badRange fragment =>
      s!"invalid range modifier '{fragment}'; expected \x7brange=min:max\x7d"

/-- The wording of a wrong argument. -/
def ArgumentFault.message : ArgumentFault → String
  | defaultLength given => s!"default_length must be >= 1, got {given}"
  | charactersNotText given => s!"include() expects a string, got {given}"
  | lengthTwice fixed => s!"length can only be specified once (already set to {fixed})"
  | lengthNotPositive given => s!"length must be > 0, got {given}"
  | shortestNotPositive given => s!"minimum length must be >= 1, got {given}"
  | decreasingLength shortest longest =>
      s!"maximum length must be >= minimum length, got {shortest}-{longest}"
  | notIncreasing low high =>
      s!"max value must be greater than min value, got range {low}:{high}"
  | decreasing low high =>
      s!"max value must not be less than min value, got range {low}:{high}"
  | noneOfParity low high parity =>
      let kind := parity.name
      s!"range {low}:{high} contains no {kind} integer"
  | rangeTwice low high => s!"range can only be specified once (already {low}:{high})"
  | otherParity fixed =>
      let kind := fixed.name
      s!"cannot combine even() and odd(); already {kind}"
  | badZoneOffset text => s!"'{text}' is not a valid zone offset"
  | badZoneName text => s!"'{text}' is not a valid zone id"
  | badStart text => s!"'{text}' is not a valid start datetime"
  | startWithoutOffset text =>
      s!"'{text}' is not a valid start datetime; an offset is required"
  | startTwice => "start can only be specified once"
  | naiveStart written => s!"start datetime '{written}' must be timezone aware"
  | zoneTwice => "zone can only be specified once"
  | unknownUnit unit => s!"unknown temporal unit '{unit}'"
  | offsetTooLarge amount unit =>
      let signed := Text.withSign amount
      s!"offset '{signed}{unit}' is out of range"
  | resultOutOfReach calendar clock start =>
      s!"offsets {calendar} and {clock} applied to '{start}' are out of range"
  | emptyCommand => "command cannot be empty"

namespace SystemFault

def message (fault : SystemFault) : String :=
  let front := s!"[Errno {fault.number}] {fault.reason}"
  match fault.subject with
  | some subject => front ++ ": " ++ Text.quoted subject
  | none => front

/-- There is no file or program at a path. -/
def noEntry (path : Text) : SystemFault :=
  ⟨2, "No such file or directory", some path⟩

end SystemFault

/-- The wording of a failure of a process. -/
def ProcessFault.message : ProcessFault → String
  | alreadyRunning runner => s!"{runner} is already running"
  | cannotStart command cause => s!"unable to start '{command}': {cause.message}"
  | notStarted runner => s!"{runner} has not been started"
  | stillRunning command seconds => s!"'{command}' did not finish within {seconds} seconds"

/-- The wording of a scalar without a value. A length of time is worded as whole days
and the seconds above them. -/
def ScalarFault.message : ScalarFault → String
  | noDigits base => s!"invalid literal for int() with base {base}: ''"
  | noSuchCharacter => "chr() arg not in range(0x110000)"
  | offsetTooLarge seconds =>
      let length := Text.lengthOfTime seconds
      s!"offset must be a timedelta strictly between -timedelta(hours=24) and timedelta(hours=24), not {length}."
  | yearOutOfRange year => s!"year {year} is out of range"
  | monthOutOfRange => "month must be in 1..12"
  | dayOutOfRange => "day is out of range for month"
  | hourOutOfRange => "hour must be in 0..23"
  | minuteOutOfRange => "minute must be in 0..59"
  | secondOutOfRange => "second must be in 0..59"

/-- The integers that the wording of a wrong argument writes out. -/
def ArgumentFault.integers : ArgumentFault → List Int
  | defaultLength n | lengthNotPositive n | shortestNotPositive n | offsetTooLarge n _ => [n]
  | lengthTwice fixed => [fixed]
  | decreasingLength n m | notIncreasing n m | decreasing n m | noneOfParity n m _
  | rangeTwice n m => [n, m]
  | _ => []

/-- What comes of a wrong argument: it is told if its integers can be written. -/
def ArgumentFault.raised (cause : ArgumentFault) : Fault :=
  if cause.integers.all Text.isWritable then .argument cause else .integerTooLong

namespace Fault

def ofTooLong (t : Text.TooLong) : Fault :=
  .numeralTooLong t.digits

def liftNumeral (r : Except Text.TooLong α) : Except Fault α :=
  r.mapError ofTooLong

end Fault

end FixtureKeywords
