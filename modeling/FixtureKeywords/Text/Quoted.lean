import FixtureKeywords.Text.Printable
import FixtureKeywords.Text.Blank

/-!
# Quoted text

Text is quoted between apostrophes, or between double quotes when it holds an
apostrophe and no double quote. The backslash and the chosen quote are escaped;
a character without a printed form is written by its name or its number, in the
shortest of the three widths that holds it.
-/

namespace FixtureKeywords.Text

/-- The hexadecimal digits of a number, with zeros in front up to `width`. -/
def hexPadded (width n : Nat) : String :=
  let digits := Nat.toDigits 16 n
  String.ofList (List.replicate (width - digits.length) '0' ++ digits)

def quoteFor (t : Text) : Char :=
  if t.contains '\'' && !t.contains '"' then '"' else '\''

def quotedChar (quote c : Char) : String :=
  if c = quote ∨ c = '\\' then String.ofList ['\\', c]
  else if c = '\n' then "\\n"
  else if c = '\r' then "\\r"
  else if c = '\t' then "\\t"
  else if isPrintable c then String.ofList [c]
  else if c.toNat < 0x100 then "\\x" ++ hexPadded 2 c.toNat
  else if c.toNat < 0x10000 then "\\u" ++ hexPadded 4 c.toNat
  else "\\U" ++ hexPadded 8 c.toNat

def quoted (t : Text) : String :=
  let quote := quoteFor t
  String.ofList [quote] ++ String.join (t.map (quotedChar quote)) ++ String.ofList [quote]

end FixtureKeywords.Text
