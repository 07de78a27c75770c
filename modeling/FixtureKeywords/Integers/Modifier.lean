import FixtureKeywords.Integers.Sample
import FixtureKeywords.Keyword.Parsed
import FixtureKeywords.Log

/-!
# Modifiers of random integers

An integer keyword gives its bounds by `{range=min:max}` and asks for a parity by
`{even}` or `{odd}`, not both. Bounds carry at most a minus sign.
-/

namespace FixtureKeywords

/-- The value of one modifier of an integer keyword. -/
inductive IntegerModifier where
  | range (low high : Int)
  | parity (wanted : Parity)
deriving DecidableEq, Repr

namespace IntegerModifier

def rangeParts? (payload : Text) : Option (Text.Signed × Text.Signed) := do
  let rest ← Text.dropChar? ':' (payload.dropWhile (· != ':'))
  let low ← Text.signed? false (Text.strip (payload.takeWhile (· != ':')))
  let high ← Text.signed? false (Text.strip rest)
  some (low, high)

/-- Reads a range; its bounds are not compared here. -/
def readRange (f : Fragment) : Except Fault IntegerModifier :=
  match rangeParts? f.payload with
  | none => .error (.format (.badRange f.shown))
  | some (low, high) => do
      let low ← Fault.liftNumeral low.read
      let high ← Fault.liftNumeral high.read
      .ok (.range low high)

def rules : List (Rule IntegerModifier) :=
  [ Rule.assignment "range" readRange,
    Rule.flag Parity.even.name (.parity .even),
    Rule.flag Parity.odd.name (.parity .odd) ]

/-- An integer cannot be even and odd. -/
def exclusive : List (List String) :=
  [[Parity.even.name, Parity.odd.name]]

/-- Reads an integer keyword. -/
def parse (t : Text) : Except Fault (Parsed IntegerModifier) :=
  Parsed.parse t .integer rules exclusive

def bounds? : IntegerModifier → Option (Int × Int)
  | range low high => some (low, high)
  | _ => none

def parity? : IntegerModifier → Option Parity
  | parity wanted => some wanted
  | _ => none

/-- What an integer keyword asks for. -/
structure Request where
  low : Int
  high : Int
  parity : Option Parity
deriving DecidableEq, Repr

def request (parsed : Parsed IntegerModifier) : Request :=
  let (low, high) := (parsed.flat.findSome? bounds?).getD (Sample.least, Sample.greatest)
  ⟨low, high, parsed.flat.findSome? parity?⟩

/-- How a record writes whether something is asked for. -/
def yesNo (b : Bool) : String :=
  if b then "True" else "False"

/-- The record of an integer about to be drawn. -/
def Request.record (r : Request) : LogRecord :=
  let even := yesNo (r.parity == some .even)
  let odd := yesNo (r.parity == some .odd)
  .debug "keywords.integers" s!"randint: range={r.low}:{r.high} even={even} odd={odd}"

/-- Draws the integer that a keyword asks for. -/
def generate (t : Text) : Except Fault (DrawProgram (Logged Int)) := do
  let r := request (← parse t)
  (Sample.within r.parity r.low r.high).map fun program => program.map fun n => ⟨r.record, n⟩

end IntegerModifier

end FixtureKeywords
