import FixtureKeywords.Fault

/-!
# Lines and gaps

The characters of a markup text. A line ends with a line feed or with one of the
two separators of Unicode; any other way to break a line reads as a line feed.
Three dashes or three dots at the start of a line, with a blank behind them, are a
mark of a document.

What stands between two words of a scalar is a gap. A gap within a line reads as
its blanks. A gap with one line feed reads as a space, and with more line breaks as
those after the first one; a separator is never dropped.
-/

namespace FixtureKeywords.Markup

/-- Writes every line break but the two separators as a line feed. -/
def unifyBreaks : Text → Text
  | [] => []
  | '\r' :: '\n' :: rest => '\n' :: unifyBreaks rest
  | c :: rest => (if c = '\r' ∨ c = '\x85' then '\n' else c) :: unifyBreaks rest

/-- Whether a character may stand in a markup text at all. -/
def isAllowed (c : Char) : Bool :=
  let n := c.toNat
  n == 0x09 || n == 0x0A || n == 0x0D || n == 0x85 || (0x20 ≤ n && n ≤ 0x7E) ||
    (0xA0 ≤ n && n != 0xFFFE && n != 0xFFFF)

def isBreak (c : Char) : Bool :=
  c == '\n' || c == '\u2028' || c == '\u2029'

def isSpace (c : Char) : Bool :=
  c == ' ' || c == '\t'

def startsBlank (t : Text) : Bool :=
  match t with
  | [] => true
  | c :: _ => isSpace c || isBreak c

def startsWithMark (mark t : Text) : Bool :=
  t.take 3 == mark && startsBlank (t.drop 3)

/-- The mark in front of a document. -/
def startMark : Text := "---".toList

def endMark : Text := "...".toList

/-- What was passed over since the last character of a scalar: line breaks, and the
blanks behind the last one. A gap behind an escaped line break is joined: that break
reads as nothing. -/
structure Gap where
  breaks : Text
  blanks : Text
  joined : Bool
deriving DecidableEq, Repr

namespace Gap

/-- Nothing passed over. -/
def none : Gap := ⟨[], [], false⟩

/-- After an escaped line break. -/
def afterJoin : Gap := ⟨[], [], true⟩

/-- Passes over a blank. -/
def blank (c : Char) (g : Gap) : Gap :=
  { g with blanks := g.blanks ++ [c] }

def lineBreak (c : Char) (g : Gap) : Gap :=
  { g with breaks := g.breaks ++ [c], blanks := [] }

/-- Passes over a blank or a line break. -/
def pass (c : Char) (g : Gap) : Gap :=
  if isBreak c then g.lineBreak c else g.blank c

/-- Whether a gap goes over a line break. -/
def isBroken (g : Gap) : Bool :=
  g.joined || !g.breaks.isEmpty

def endsAtMark (g : Gap) (rest : Text) : Bool :=
  g.isBroken && g.blanks.isEmpty &&
    (startsWithMark startMark rest || startsWithMark endMark rest)

def text (g : Gap) : Text :=
  if g.joined then g.breaks
  else
    match g.breaks with
    | [] => g.blanks
    | ['\n'] => [' ']
    | '\n' :: further => further
    | breaks => breaks

end Gap

/-- A line with the line break that ends it; the last line of a text has none. -/
structure Line where
  content : Text
  ending : Text
deriving DecidableEq, Repr

namespace Line

def splitFrom (content : Text) : Text → List Line
  | [] => [⟨content, []⟩]
  | c :: rest =>
      if isBreak c then ⟨content, [c]⟩ :: splitFrom [] rest
      else splitFrom (content ++ [c]) rest

def split (t : Text) : List Line :=
  splitFrom [] t

def join (lines : List Line) : Text :=
  lines.flatMap fun line => line.content ++ line.ending

/-- How many spaces a line starts with. -/
def indent (line : Line) : Nat :=
  (line.content.takeWhile (· == ' ')).length

/-- Whether a line that goes on behind holds nothing but spaces. -/
def isIdle (line : Line) : Bool :=
  line.content.all (· == ' ') && !line.ending.isEmpty

end Line

end FixtureKeywords.Markup
