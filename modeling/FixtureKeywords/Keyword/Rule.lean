import FixtureKeywords.Fault
import FixtureKeywords.Keyword.Fragment

/-!
# Modifier rules

A modifier is written in braces. A rule says how one kind of modifier is
recognised, how often it may occur, and how the payload of a recognised fragment
is read as a value of the family's type `α`.

Two shapes are shared by the families: the flag `{name}` and the assignment
`{name=payload}`, whose payload holds no brace. Names are written in any case
and blanks are allowed around them.
-/

namespace FixtureKeywords

/-- One row of a family's table of modifiers. -/
structure Rule (α : Type) where
  name : String
  limit : Option Nat
  recognise : Recogniser
  read : Fragment → Except Fault α

namespace Recogniser

/-- What follows an opening brace, blanks and a name. -/
def dropOpening? (name : Text) (t : Text) : Option Text := do
  let rest ← Text.dropChar? '\x7b' t
  Text.dropWord? name (Text.dropBlanks rest)

/-- What follows blanks and a closing brace. -/
def dropClosing? (t : Text) : Option Text :=
  Text.dropChar? '\x7d' (Text.dropBlanks t)

def isBrace (c : Char) : Bool :=
  c == '\x7b' || c == '\x7d'

/-- The flag `{name}`. -/
def flag (name : Text) : Recogniser := fun t => do
  let rest ← dropOpening? name t
  let rest ← dropClosing? rest
  some (.upTo t rest [])

/-- The assignment `{name=payload}`; the payload ends at the first brace, which
has to be a closing one. -/
def assignment (name : Text) : Recogniser := fun t => do
  let rest ← dropOpening? name t
  let rest ← Text.dropChar? '=' (Text.dropBlanks rest)
  let payload := rest.takeWhile fun c => !isBrace c
  let rest ← Text.dropChar? '\x7d' (rest.dropWhile fun c => !isBrace c)
  some (.upTo t rest payload)

end Recogniser

namespace Rule

/-- A flag that may occur any number of times and always stands for one value. -/
def flag (name : String) (value : α) : Rule α where
  name
  limit := none
  recognise := Recogniser.flag name.toList
  read := fun _ => .ok value

/-- An assignment that may occur at most once. -/
def assignment (name : String) (read : Fragment → Except Fault α) : Rule α where
  name
  limit := some 1
  recognise := Recogniser.assignment name.toList
  read

end Rule

/-- A fragment as it is quoted in messages. -/
def Fragment.shown (f : Fragment) : String :=
  String.ofList f.whole

/-- Reads an optionally signed decimal integer; `fragment` is the modifier that
it stands in, quoted when the integer is malformed. -/
def readInteger (raw : Text) (fragment : String) : Except Fault Int :=
  let stripped := Text.strip raw
  match Text.signed? true stripped with
  | some numeral => Fault.liftNumeral numeral.read
  | none => .error (.format (.badInteger (String.ofList stripped) fragment))

end FixtureKeywords
