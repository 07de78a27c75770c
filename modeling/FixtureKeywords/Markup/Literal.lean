import FixtureKeywords.Markup.Line

/-!
# Literal scalars

A literal scalar keeps the lines below its mark, without their indentation. The
first line that holds more than spaces says how far in they are, unless a digit
behind the mark does. A folded scalar joins neighbouring lines that start with no
blank. A sign behind the mark says what becomes of the line breaks at the end.
-/

namespace FixtureKeywords.Markup

/-- What is kept of the line breaks at the end of a literal scalar: none, the first
one, or all. -/
inductive Chomping where
  | strip
  | clip
  | keep
deriving DecidableEq, Repr

/-- What stands behind the mark of a literal scalar. -/
structure LiteralHeader where
  chomping : Chomping
  depth : Option Nat
deriving DecidableEq, Repr

namespace LiteralHeader

/-- Reads a chomping, if there is one. -/
def takeChomping (t : Text) : Option Chomping × Text :=
  match t with
  | '+' :: rest => (some .keep, rest)
  | '-' :: rest => (some .strip, rest)
  | rest => (none, rest)

/-- Reads a digit, if there is one. -/
def takeDepth (t : Text) : Option Nat × Text :=
  match t with
  | c :: rest => if c.isDigit then (some (Text.digitValue c), rest) else (none, t)
  | [] => (none, [])

/-- Whether a text holds a comment at most, behind spaces. -/
def endsLine (t : Text) : Bool :=
  t.isEmpty || (t.head? == some ' ' &&
    (t.dropWhile (· == ' ')).head?.all (· == '#'))

/-- Reads the line behind the mark: a sign and a digit in either order. -/
def read (line : Text) : Except Fault LiteralHeader :=
  let (front, rest) := takeChomping line
  let (depth, rest) := takeDepth rest
  let (back, rest) := if front.isSome then (none, rest) else takeChomping rest
  if depth = some 0 ∨ !endsLine rest then .error .markupCharacter
  else .ok ⟨(front.or back).getD .clip, depth⟩

end LiteralHeader

/-- The lines of a literal scalar: the text up to the last line that holds
something, the break of that line, the breaks of the empty lines behind it, and the
lines that follow. -/
structure LiteralReading where
  text : Text
  ending : Text
  trailing : Text
  rest : List Line
deriving DecidableEq, Repr

/-- A line of a literal scalar that was read: its break, and whether it starts with
no blank. -/
structure LastLine where
  ending : Text
  flush : Bool
deriving DecidableEq, Repr

/-- What stands between two lines of a literal scalar; `breaks` are those of the
empty lines between them. -/
def LastLine.separation (folded : Bool) (last : LastLine) (breaks : Text) (flush : Bool) : Text :=
  if folded && last.ending == ['\n'] && last.flush && flush then
    if breaks.isEmpty then [' '] else breaks
  else last.ending ++ breaks

/-- Reads lines that are `indent` columns in, behind the breaks of empty lines. -/
def readLines (folded : Bool) (indent : Nat) (last : Option LastLine) (breaks : Text) :
    List Line → LiteralReading
  | [] => ⟨[], (last.map LastLine.ending).getD [], breaks, []⟩
  | line :: lines =>
      if line.isIdle && line.content.length ≤ indent then
        readLines folded indent last (breaks ++ line.ending) lines
      else if indent ≤ line.indent && indent < line.content.length then
        let content := line.content.drop indent
        let flush := !content.head?.any isSpace
        let front := match last with
          | none => breaks
          | some last => last.separation folded breaks flush
        let more := readLines folded indent (some ⟨line.ending, flush⟩) [] lines
        { more with text := front ++ content ++ more.text }
      else ⟨[], (last.map LastLine.ending).getD [], breaks, line :: lines⟩

/-- How far in the first lines are, up to the first one that holds more than spaces. -/
def detectedIndent : List Line → Nat
  | [] => 0
  | line :: lines => if line.isIdle then max line.indent (detectedIndent lines) else line.indent

/-- Reads a literal scalar that is at least `least` columns in, from behind its mark:
the text, and what follows. -/
def readLiteral (folded : Bool) (least : Nat) (t : Text) : Except Fault (Text × Text) :=
  match Line.split t with
  | [] => .error .markupCharacter
  | first :: lines => do
      let header ← LiteralHeader.read first.content
      let indent := match header.depth with
        | some depth => least + depth - 1
        | none => max least (detectedIndent lines)
      let r := readLines folded indent none [] lines
      let kept := match header.chomping with
        | .strip => []
        | .clip => r.ending
        | .keep => r.ending ++ r.trailing
      .ok (r.text ++ kept, Line.join r.rest)

end FixtureKeywords.Markup
