import FixtureKeywords.Random.Digest
import FixtureKeywords.Random.Twister
import FixtureKeywords.Text.Composed
import FixtureKeywords.Text.Lowercase
import FixtureKeywords.Fault

/-!
# Seeds

A seed is an integer or a text. An integer seeds the twister directly. A text is
first brought to a canonical form, so that spacing, case and the spelling of
accented letters do not matter; the digest of that form, in a name space of its
own, is the integer.

A seed that a user writes as text is an integer when it is a decimal numeral
with at most a minus sign.
-/

namespace FixtureKeywords

/-- What a reproducible run is seeded by. -/
inductive Seed where
  | number (n : Int)
  | text (t : Text)
deriving DecidableEq, Repr

namespace Seed

/-- The canonical form of a seed text: trimmed, composed, with single spaces, in
lower case. -/
def canonical (t : Text) : Text :=
  Text.lowered (Text.collapse (Text.composed (Text.strip t)))

/-- What the digest is taken of besides the seed. -/
def nameSpace : String := "ddtgen/v1/rng"

/-- The integer that seeds the twister. -/
def toInt : Seed → Int
  | number n => n
  | text t => Digest.number (nameSpace ++ String.ofList (canonical t)).toUTF8.toList

def start (seed : Seed) : Twister :=
  .ofInt seed.toInt

def ofText (raw : Text) : Except Fault Seed :=
  let stripped := Text.strip raw
  match Text.signed? false stripped with
  | some numeral => (Fault.liftNumeral numeral.read).map number
  | none => .ok (text stripped)

end Seed

end FixtureKeywords
