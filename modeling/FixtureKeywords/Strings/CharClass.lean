import FixtureKeywords.Text.Blank

/-!
# Character classes

The classes of characters that a random string may be drawn from, in the order
in which a keyword's selection is put together.
-/

namespace FixtureKeywords

/-- A class of characters that can be selected by name. -/
inductive CharClass where
  | uppercase
  | lowercase
  | numeric
  | spaces
  | special
deriving DecidableEq, Repr

namespace CharClass

def all : List CharClass :=
  [uppercase, lowercase, numeric, spaces, special]

def name : CharClass → String
  | uppercase => "uppercase"
  | lowercase => "lowercase"
  | numeric => "numeric"
  | spaces => "spaces"
  | special => "specialchars"

def characters : CharClass → Text
  | uppercase => "ABCDEFGHIJKLMNOPQRSTUVWXYZ".toList
  | lowercase => "abcdefghijklmnopqrstuvwxyz".toList
  | numeric => "0123456789".toList
  | spaces => [' ']
  | special => "~!@#$%^&*()_+\x60-=\x7b\x7d|[]\\:\";'<>?,./".toList

/-- What strings are drawn from when nothing was selected. -/
def alphanumeric : Text :=
  lowercase.characters ++ uppercase.characters ++ numeric.characters

theorem characters_ne_nil (c : CharClass) : c.characters ≠ [] := by
  cases c <;> decide

theorem alphanumeric_ne_nil : alphanumeric ≠ [] := by
  decide

end CharClass

end FixtureKeywords
