import FixtureKeywords.Markup.Line

/-!
# Plain scalars as they are written

A scalar without quotes starts with a character that marks nothing and goes on over
lines as long as they are further in than the block around it. It ends at a colon
before a blank, at a tab, and at a comment; in brackets or braces also at a
character that separates or encloses items.
-/

namespace FixtureKeywords.Markup

/-- Whether a character separates or encloses the items of a collection. -/
def isIndicator (c : Char) : Bool :=
  c == ',' || c == '[' || c == ']' || c == '\x7b' || c == '\x7d'

/-- Whether a character at the start of a token says what the token is. -/
def isMarking (c : Char) : Bool :=
  isIndicator c || "-?:#&*!|>'\"%@\x60".toList.contains c

def startsPlain (inFlow : Bool) : Text → Bool
  | [] => false
  | c :: rest =>
      !(isMarking c || isSpace c || isBreak c) ||
        (!startsBlank rest && (c == '-' || (!inFlow && (c == '?' || c == ':'))))

/-- Whether a text starts with what no plain scalar goes on with. -/
def endsPlain (inFlow : Bool) : Text → Bool
  | [] => true
  | c :: rest =>
      startsBlank [c] ||
        (c == ':' && (startsBlank rest || (inFlow && rest.head?.any isIndicator))) ||
        (inFlow && (isIndicator c || c == '?'))

/-- A plain scalar that was read, what follows the gap behind it, and whether the gap
goes over a line break. -/
structure PlainReading where
  text : Text
  rest : Text
  broken : Bool
deriving DecidableEq, Repr

/-- Whether a plain scalar cannot go on behind a gap: with a comment, in a line
that is not `least` columns in, or with a mark of a document. -/
def stopsPlain (inFlow : Bool) (least : Nat) (gap : Gap) (rest : Text) : Bool :=
  gap != .none &&
    (rest.head? == some '#' || gap.endsAtMark rest ||
      (!inFlow && gap.isBroken && gap.blanks.length < least))

def readPlain (inFlow : Bool) (least : Nat) (gap : Gap) : Text → PlainReading
  | [] => ⟨[], [], gap.isBroken⟩
  | c :: rest =>
      if c == ' ' || isBreak c then readPlain inFlow least (gap.pass c) rest
      else if endsPlain inFlow (c :: rest) || stopsPlain inFlow least gap (c :: rest) then
        ⟨[], c :: rest, gap.isBroken⟩
      else
        let more := readPlain inFlow least .none rest
        { more with text := gap.text ++ c :: more.text }

end FixtureKeywords.Markup
