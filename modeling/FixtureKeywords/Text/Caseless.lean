import FixtureKeywords.Text.Blank

/-!
# Letters without regard to case

Names are written in lower case in the library and in any case by its users. A
character is compared by its key: the lower-case ASCII letter that it stands
for. Four letters outside ASCII stand for one as well: the long s, the dotted
capital i, the dotless small i and the Kelvin sign.
-/

namespace FixtureKeywords.Text

/-- The lower-case ASCII letter that a character stands for, or the character itself. -/
def letterKey (c : Char) : Char :=
  if c = '\u017f' then 's'
  else if c = '\u0130' ∨ c = '\u0131' then 'i'
  else if c = '\u212a' then 'k'
  else c.toLower

/-- The rest of a text that starts with the lower-case word `word`, in any case. -/
def dropWord? : Text → Text → Option Text
  | [], t => some t
  | _ :: _, [] => none
  | w :: ws, c :: cs => if letterKey c = w then dropWord? ws cs else none

theorem dropWord?_nil (t : Text) : dropWord? [] t = some t := by
  cases t <;> rfl

end FixtureKeywords.Text
