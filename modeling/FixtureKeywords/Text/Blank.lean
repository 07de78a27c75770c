/-!
# Texts and blank characters

A text is the list of its code points. Everything that reads a keyword works on
such lists, so that a recogniser is a plain recursion and a fragment of a text
is a plain sublist. The blank characters are fixed here once: they are what may
stand around a keyword, between its modifiers and inside their braces, and what
is trimmed from a seed, a zone id or a timestamp.

A zero-width space, a byte order mark and a Mongolian vowel separator are not
blank.
-/

namespace FixtureKeywords

/-- A text is the list of its code points. -/
abbrev Text := List Char

namespace Text

/-- The blank characters: the separators and controls that count as white space. -/
def isBlank (c : Char) : Bool :=
  let n := c.toNat
  (0x09 ≤ n && n ≤ 0x0D) || (0x1C ≤ n && n ≤ 0x20) || n == 0x85 || n == 0xA0 ||
    n == 0x1680 || (0x2000 ≤ n && n ≤ 0x200A) || n == 0x2028 || n == 0x2029 ||
    n == 0x202F || n == 0x205F || n == 0x3000

def dropBlanks (t : Text) : Text :=
  t.dropWhile isBlank

def dropTrailingBlanks (t : Text) : Text :=
  (dropBlanks t.reverse).reverse

/-- The text without the blanks at either end. -/
def strip (t : Text) : Text :=
  dropTrailingBlanks (dropBlanks t)

def isBlankText (t : Text) : Bool :=
  t.all isBlank

/-- Rewrites each run of blanks to one space; `inRun` says that the character
before was blank already. -/
def collapseFrom (inRun : Bool) : Text → Text
  | [] => []
  | c :: cs =>
      if isBlank c then
        if inRun then collapseFrom true cs else ' ' :: collapseFrom true cs
      else c :: collapseFrom false cs

/-- Rewrites each run of blanks to one space. -/
def collapse (t : Text) : Text :=
  collapseFrom false t

/-- The rest of a text that starts with the character `c`. -/
def dropChar? (c : Char) : Text → Option Text
  | [] => none
  | d :: ds => if d = c then some ds else none

theorem dropChar?_eq_some_iff {c : Char} {t rest : Text} :
    dropChar? c t = some rest ↔ t = c :: rest := by
  cases t with
  | nil => simp [dropChar?]
  | cons d ds => by_cases h : d = c <;> simp [dropChar?, h]

end Text

end FixtureKeywords
