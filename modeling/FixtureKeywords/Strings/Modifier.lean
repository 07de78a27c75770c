import FixtureKeywords.Keyword.Parsed
import FixtureKeywords.Strings.CharClass

/-!
# Modifiers of random strings

A string keyword selects character classes by flags, adds characters of its own
by `{include=[...]}`, and fixes a length by `{length=N}` or `{length=N-M}`.

The payload of an addition may hold anything, closing brackets and whole
modifiers too. It runs to the last `]` followed by blanks and a brace before the
next opener `{include=` or the end of the text. So additions are taken out before
all other modifiers.
-/

namespace FixtureKeywords

/-- The value of one modifier of a string keyword. -/
inductive StringModifier where
  | addition (characters : Text)
  | length (shortest longest : Nat)
  | select (chosen : CharClass)
deriving DecidableEq, Repr

namespace StringModifier

/-- What follows the opener of an addition, up to and with the equals sign. -/
def dropOpener? (t : Text) : Option Text := do
  let rest ← Recogniser.dropOpening? "include".toList t
  Text.dropChar? '=' (Text.dropBlanks rest)

/-- The part of a text before the first opener of an addition. -/
def beforeOpener : Text → Text
  | [] => []
  | c :: cs => if (dropOpener? (c :: cs)).isSome then [] else c :: beforeOpener cs

/-- Splits a text at its last closing, a bracket with blanks and a brace behind
it: what stands before, and what stands after. -/
def atLastClosing? : Text → Option (Text × Text)
  | [] => none
  | c :: cs =>
      match atLastClosing? cs with
      | some (before, after) => some (c :: before, after)
      | none =>
          if c = ']' then (Recogniser.dropClosing? cs).map fun after => ([], after) else none

def recogniseAddition : Recogniser := fun t => do
  let rest ← dropOpener? t
  let rest ← Text.dropChar? '[' (Text.dropBlanks rest)
  let window := beforeOpener rest
  let (payload, after) ← atLastClosing? window
  some (.upTo t (rest.drop (window.length - after.length)) payload)

/-- Reads an addition; it has to add something. -/
def readAddition (f : Fragment) : Except Fault StringModifier :=
  if f.payload.isEmpty then .error (.format (.emptyCharacters f.shown))
  else .ok (.addition f.payload)

/-- The digits of a length and, after a hyphen, of a longest length. -/
def lengthParts? (payload : Text) : Option (Text × Option Text) :=
  let stripped := Text.strip payload
  let first := stripped.takeWhile Char.isDigit
  let rest := Text.dropBlanks (stripped.dropWhile Char.isDigit)
  if first.isEmpty then none
  else if rest.isEmpty then some (first, none)
  else do
    let second := Text.dropBlanks (← Text.dropChar? '-' rest)
    if Text.isNumeral second then some (first, some second) else none

/-- Reads a length or a range of lengths; a length is at least one and a range
does not decrease. -/
def readLength (f : Fragment) : Except Fault StringModifier :=
  match lengthParts? f.payload with
  | none => .error (.format (.badLength f.shown))
  | some (first, second) => do
      let shortest ← Fault.liftNumeral (Text.readDigits first)
      let longest ← match second with
        | some digits => Fault.liftNumeral (Text.readDigits digits)
        | none => .ok shortest
      if shortest < 1 then .error (.format (.zeroLength f.shown))
      else if longest < shortest then .error (.format (.decreasingLength f.shown))
      else .ok (.length shortest longest)

/-- The modifiers of a string keyword: additions first, since their payload may
hold text that looks like any other modifier. -/
def rules : List (Rule StringModifier) :=
  [ { name := "include", limit := none, recognise := recogniseAddition, read := readAddition },
    Rule.assignment "length" readLength ] ++
  CharClass.all.map fun c => Rule.flag c.name (.select c)

/-- Reads a string keyword. -/
def parse (t : Text) : Except Fault (Parsed StringModifier) :=
  Parsed.parse t .string rules []

/-- The characters that an addition adds. -/
def added? : StringModifier → Option Text
  | addition characters => some characters
  | _ => none

def bounds? : StringModifier → Option (Nat × Nat)
  | length shortest longest => some (shortest, longest)
  | _ => none

end StringModifier

end FixtureKeywords
