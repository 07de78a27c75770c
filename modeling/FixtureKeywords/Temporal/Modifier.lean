import FixtureKeywords.Keyword.Parsed
import FixtureKeywords.Temporal.Spec

/-!
# Modifiers of datetimes

A datetime keyword gives a start by `{start=...}`, a zone by `{zoneid=...}`, and
offsets such as `{+1d}` or `{-2h}`, whose units are single letters in a fixed
case. Empty braces say nothing.
-/

namespace FixtureKeywords

/-- The value of one modifier of a datetime keyword. -/
inductive TemporalModifier where
  | start (m : Moment)
  | zone (z : Zone)
  | offset (unit : TemporalUnit) (amount : Int)
  | empty
deriving DecidableEq, Repr

namespace TemporalModifier

/-- Splits a signed numeral off the front of a text: the numeral and the rest. -/
def takeSigned (t : Text) : Text × Text :=
  let (sign, digits) := match t with
    | '+' :: rest => (['+'], rest)
    | '-' :: rest => (['-'], rest)
    | rest => ([], rest)
  (sign ++ digits.takeWhile Char.isDigit, digits.dropWhile Char.isDigit)

/-- Recognises an offset; its payload is the amount with the letter of the unit. -/
def recogniseOffset : Recogniser := fun t => do
  let rest ← Text.dropChar? '\x7b' t
  let (amount, rest) := takeSigned (Text.dropBlanks rest)
  if amount.all fun c => !c.isDigit then none else
  match rest with
  | [] => none
  | letter :: rest => do
      let _ ← TemporalUnit.ofLetter? letter
      let rest ← Recogniser.dropClosing? rest
      some (.upTo t rest (amount ++ [letter]))

def readOffset (f : Fragment) : Except Fault TemporalModifier :=
  match f.payload.getLast?.bind TemporalUnit.ofLetter? with
  | some unit => (readInteger f.payload.dropLast f.shown).map (offset unit)
  | none => .error (.format (.badInteger (String.ofList f.payload) f.shown))

def recogniseEmpty : Recogniser := fun t => do
  let rest ← Text.dropChar? '\x7b' t
  let rest ← Recogniser.dropClosing? rest
  some (.upTo t rest [])

variable [Almanac]

/-- The modifiers of a datetime keyword. -/
def rules : List (Rule TemporalModifier) :=
  [ Rule.assignment "start" fun f => (Moment.ofStart f.payload).map start,
    Rule.assignment "zoneid" fun f => (Zone.ofId f.payload).map zone,
    { name := "offset", limit := none, recognise := recogniseOffset, read := readOffset },
    { name := "empty", limit := none, recognise := recogniseEmpty, read := fun _ => .ok empty } ]

/-- Reads a datetime keyword. -/
def parse (t : Text) : Except Fault (Parsed TemporalModifier) :=
  Parsed.parse t .datetime rules []

def start? : TemporalModifier → Option Moment
  | start m => some m
  | _ => none

def zone? : TemporalModifier → Option Zone
  | zone z => some z
  | _ => none

def offset? : TemporalModifier → Option (TemporalUnit × Int)
  | offset unit amount => some (unit, amount)
  | _ => none

def request (parsed : Parsed TemporalModifier) : Except Fault TemporalSpec :=
  let bare : TemporalSpec :=
    { TemporalSpec.empty with
      start := parsed.flat.findSome? start?
      zone := parsed.flat.findSome? zone? }
  bare.addAll (parsed.flat.filterMap offset?)

/-- The datetime that a keyword asks for. -/
def generate (t : Text) (policy : ZonePolicy) (around : Surroundings) :
    Except Fault (Logged Moment) := do
  (← request (← parse t)).resolve policy around

end TemporalModifier

end FixtureKeywords
