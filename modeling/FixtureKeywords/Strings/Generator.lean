import FixtureKeywords.Datum
import FixtureKeywords.Log
import FixtureKeywords.Method
import FixtureKeywords.Random.DrawProgram
import FixtureKeywords.Strings.Modifier

/-!
# Random strings

A string generator collects texts to draw from and a length. Its characters are
drawn one by one, with replacement, from all collected texts put together; a
character that was collected twice is drawn twice as often. With nothing
collected the letters and digits are drawn from.

The length is fixed once, by a number or by one draw from a range, and kept until
the generator is cleared. `act` says what each call of a user does, `performAll` makes a
whole sequence of calls.
-/

namespace FixtureKeywords

/-- A generator of random strings. -/
structure StringGenerator where
  defaultLength : Nat
  collected : List Text
  fixed : Option Nat
deriving DecidableEq, Repr

namespace StringGenerator

/-- The length of a string when no other one is asked for. -/
def usualLength : Int := 10

/-- A generator with nothing collected. -/
def fresh (defaultLength : Nat) : StringGenerator :=
  ⟨defaultLength, [], none⟩

/-- A fresh generator, if the default length is at least one. -/
def start (defaultLength : Int) : Except Fault StringGenerator :=
  if defaultLength < 1 then .error (ArgumentFault.defaultLength defaultLength).raised
  else .ok (fresh defaultLength.toNat)

def length (g : StringGenerator) : Nat :=
  g.fixed.getD g.defaultLength

def characters (g : StringGenerator) : Text :=
  if g.collected.flatten.isEmpty then CharClass.alphanumeric else g.collected.flatten

theorem characters_ne_nil (g : StringGenerator) : g.characters ≠ [] := by
  unfold characters
  split
  next => exact CharClass.alphanumeric_ne_nil
  next h => simpa using h

/-- Adds a text to draw from. -/
def collect (t : Text) (g : StringGenerator) : StringGenerator :=
  { g with collected := g.collected ++ [t] }

/-- Adds characters given by a user, who has to give a text. -/
def collectGiven (given : Datum) (g : StringGenerator) : Except Fault StringGenerator :=
  match given.asText? with
  | some s => .ok (g.collect s.toList)
  | none =>
      .error (if given.isWritable then .argument (.charactersNotText given.quoted)
        else .integerTooLong)

def fixLength (n : Int) (g : StringGenerator) : Except Fault StringGenerator :=
  match g.fixed with
  | some fixed => .error (ArgumentFault.lengthTwice fixed).raised
  | none =>
      if n ≤ 0 then .error (ArgumentFault.lengthNotPositive n).raised
      else .ok { g with fixed := some n.toNat }

/-- Fixes the length by one draw between two bounds. -/
def drawLength (shortest longest : Int) (g : StringGenerator) :
    Except Fault (DrawProgram StringGenerator) :=
  match g.fixed with
  | some fixed => .error (ArgumentFault.lengthTwice fixed).raised
  | none =>
      if shortest < 1 then .error (ArgumentFault.shortestNotPositive shortest).raised
      else if h : longest < shortest then
        .error (ArgumentFault.decreasingLength shortest longest).raised
      else
        .ok ((DrawProgram.between shortest longest (Int.not_lt.1 h)).map fun n =>
          { g with fixed := some n.toNat })

def build (g : StringGenerator) : DrawProgram Text :=
  DrawProgram.pickMany g.characters.toArray
    (by simpa [List.length_pos_iff] using g.characters_ne_nil) g.length

def record (g : StringGenerator) : LogRecord :=
  let length := g.length
  let size := g.characters.length
  .debug "keywords.strings" s!"building string: length={length} source_size={size}"

def buildLogged (g : StringGenerator) : DrawProgram (Logged Text) :=
  g.build.map fun t => ⟨g.record, t⟩

/-- The generator without selections, additions and length. -/
def clear (g : StringGenerator) : StringGenerator :=
  fresh g.defaultLength

/-- A call of a user. -/
inductive Call where
  | select (chosen : CharClass)
  | add (given : Datum)
  | length (n : Int)
  | lengthBetween (shortest longest : Int)
  | build
  | clear
  | buildAndClear

/-- The answer to a call that succeeds. -/
inductive Answer where
  | chained
  | cleared
  | built (t : Text)
deriving DecidableEq, Repr

def act : Call → Method DrawProgram StringGenerator Answer
  | .select chosen => do
      modify (collect chosen.characters)
      return .chained
  | .add given => do
      Method.assign (collectGiven given)
      return .chained
  | .length n => do
      Method.assign (fixLength n)
      return .chained
  | .lengthBetween shortest longest => do
      let program ← Method.ofOutcome (drawLength shortest longest (← get))
      set (← Method.draw program)
      return .chained
  | .build => do
      return .built (← Method.draw (← get).build)
  | .clear => do
      modify clear
      return .cleared
  | .buildAndClear => do
      let t ← Method.draw (← get).build
      modify clear
      return .built t

/-- Makes calls in order. Each one is listed with its outcome and the generator after it. -/
def performAll (g : StringGenerator) (calls : List Call) :
    DrawProgram (List (Except Fault Answer × StringGenerator)) :=
  Method.callAll act g calls

/-- The generator that a parsed keyword describes: selected classes in their order,
then additions, then the length, which takes a draw if its bounds differ. -/
def ofParsed (parsed : Parsed StringModifier) (defaultLength : Int) :
    Except Fault (DrawProgram StringGenerator) := do
  let g ← start defaultLength
  let selected := CharClass.all.filter fun c => parsed.flat.contains (.select c)
  let g := { g with
    collected := selected.map CharClass.characters ++ parsed.flat.filterMap StringModifier.added? }
  match parsed.flat.findSome? StringModifier.bounds? with
  | none => .ok (.done g)
  | some (shortest, longest) =>
      if shortest = longest then (g.fixLength shortest).map .done
      else g.drawLength shortest longest

def ofKeyword (t : Text) (defaultLength : Int) : Except Fault (DrawProgram StringGenerator) := do
  ofParsed (← StringModifier.parse t) defaultLength

/-- Draws the string that a keyword asks for. -/
def generate (t : Text) (defaultLength : Int) : Except Fault (DrawProgram (Logged Text)) :=
  (ofKeyword t defaultLength).map fun program => program.bind buildLogged

end StringGenerator

end FixtureKeywords
