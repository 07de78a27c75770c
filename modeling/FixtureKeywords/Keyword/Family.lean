import FixtureKeywords.Text.Caseless

/-!
# Keyword families

A keyword is a text of the shape `[ NAME ... ]`, blanks around it aside. Its
family is the name after the bracket. Recognition looks only at this envelope;
what stands between the name and the last bracket is left to the modifiers.

No family name begins another one, so at most one family encloses a text.
-/

namespace FixtureKeywords

/-- What kind of value a keyword asks for. -/
inductive Family where
  | string
  | integer
  | datetime
deriving DecidableEq, Repr

namespace Family

/-- The families, in the order in which they are tried and named. -/
def all : List Family :=
  [string, integer, datetime]

/-- The name that stands after the opening bracket. -/
def name : Family → String
  | string => "randstring"
  | integer => "randint"
  | datetime => "datetime"

def dropOpening? (family : Family) (t : Text) : Option Text := do
  let rest ← Text.dropChar? '[' t
  Text.dropWord? family.name.toList (Text.dropBlanks rest)

/-- Whether the text, blanks around it aside, is the family's bracketed envelope. -/
def encloses (family : Family) (t : Text) : Bool :=
  match family.dropOpening? (Text.strip t) with
  | some rest => rest.getLast? == some ']'
  | none => false

/-- Whether the text is the family's envelope with nothing but blanks inside. -/
def isBare (family : Family) (t : Text) : Bool :=
  match family.dropOpening? t with
  | some rest => Text.dropBlanks rest == [']']
  | none => false

/-- The family whose envelope encloses the text, if any. -/
def of? (t : Text) : Option Family :=
  all.find? (·.encloses t)

end Family

end FixtureKeywords
