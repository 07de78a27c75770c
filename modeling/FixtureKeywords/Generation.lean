import FixtureKeywords.Integers.Modifier
import FixtureKeywords.Strings.Generator
import FixtureKeywords.Temporal.Modifier

/-!
# From keywords to values

A cell of a fixture table holds a keyword or something else. The family of the
keyword is found by its envelope and decides how it is read and what it generates:
a string, an integer or a moment. Reading alone tells whether a keyword is valid;
generating reads the keyword by itself and draws.
-/

namespace FixtureKeywords

/-- A keyword that was read, of one of the families. -/
inductive Keyword where
  | string (parsed : Parsed StringModifier)
  | integer (parsed : Parsed IntegerModifier)
  | datetime (parsed : Parsed TemporalModifier)
deriving DecidableEq, Repr

variable [Almanac]

def familyOf (cell : Datum) : Except Fault (Family × Text) :=
  match cell.asText?.bind fun s => (Family.of? s.toList).map (·, s.toList) with
  | some found => .ok found
  | none =>
      .error (if cell.isWritable then .format (.unsupported cell.shown) else .integerTooLong)

namespace Keyword

def family : Keyword → Family
  | string _ => .string
  | integer _ => .integer
  | datetime _ => .datetime

def read (cell : Datum) : Except Fault Keyword := do
  let (family, t) ← familyOf cell
  match family with
  | .string => (StringModifier.parse t).map string
  | .integer => (IntegerModifier.parse t).map integer
  | .datetime => (TemporalModifier.parse t).map datetime

end Keyword

inductive Value where
  | text (t : Text)
  | integer (n : Int)
  | moment (m : Moment)

/-- What keywords leave open: the length of a string, and the zone of a datetime. -/
structure Defaults where
  length : Int := StringGenerator.usualLength
  policy : ZonePolicy := .start
deriving DecidableEq, Repr

/-- Applies a function to a logged value. -/
def Logged.map (f : α → β) (l : Logged α) : Logged β :=
  ⟨l.record, f l.value⟩

namespace Value

def generate (cell : Datum) (defaults : Defaults) (around : Surroundings) :
    Except Fault (DrawProgram (Logged Value)) := do
  let (family, t) ← familyOf cell
  match family with
  | .string =>
      (StringGenerator.generate t defaults.length).map fun p => p.map (Logged.map text)
  | .integer => (IntegerModifier.generate t).map fun p => p.map (Logged.map integer)
  | .datetime =>
      (TemporalModifier.generate t defaults.policy around).map fun l => .done (l.map moment)

end Value

end FixtureKeywords
