import FixtureKeywords.Integers.Sample
import FixtureKeywords.Method

/-!
# Integers step by step

The counterpart of an integer keyword as a sequence of calls. A range is given at
most once and has to increase; a parity may be given again but not changed.
-/

namespace FixtureKeywords

/-- A request for an integer, put together call by call. -/
structure IntegerBuilder where
  range : Option (Int × Int)
  parity : Option Parity
deriving DecidableEq, Repr

namespace IntegerBuilder

/-- A builder with nothing asked for. -/
def fresh : IntegerBuilder := ⟨none, none⟩

def setRange (low high : Int) (b : IntegerBuilder) : Except Fault IntegerBuilder :=
  match b.range with
  | some (l, h) => .error (ArgumentFault.rangeTwice l h).raised
  | none =>
      if high ≤ low then .error (ArgumentFault.notIncreasing low high).raised
      else .ok { b with range := some (low, high) }

def setParity (parity : Parity) (b : IntegerBuilder) : Except Fault IntegerBuilder :=
  match b.parity with
  | some fixed =>
      if fixed = parity then .ok b else .error (.argument (.otherParity fixed))
  | none => .ok { b with parity := some parity }

def bounds (b : IntegerBuilder) : Int × Int :=
  b.range.getD (Sample.least, Sample.greatest)

def build (b : IntegerBuilder) : Except Fault (DrawProgram Int) :=
  Sample.within b.parity b.bounds.1 b.bounds.2

/-- A call of a user. -/
inductive Call where
  | range (low high : Int)
  | parity (wanted : Parity)
  | build
  | clear
  | buildAndClear
deriving DecidableEq, Repr

/-- The answer to a call that succeeds. -/
inductive Answer where
  | chained
  | cleared
  | built (n : Int)
deriving DecidableEq, Repr

def act : Call → Method DrawProgram IntegerBuilder Answer
  | .range low high => do
      Method.assign (setRange low high)
      return .chained
  | .parity wanted => do
      Method.assign (setParity wanted)
      return .chained
  | .build => do
      let program ← Method.ofOutcome (← get).build
      return .built (← Method.draw program)
  | .clear => do
      set fresh
      return .cleared
  | .buildAndClear => do
      let program ← Method.ofOutcome (← get).build
      let n ← Method.draw program
      set fresh
      return .built n

/-- Makes calls in order. Each one is listed with its outcome and the builder after it. -/
def performAll (b : IntegerBuilder) (calls : List Call) :
    DrawProgram (List (Except Fault Answer × IntegerBuilder)) :=
  Method.callAll act b calls

end IntegerBuilder

end FixtureKeywords
