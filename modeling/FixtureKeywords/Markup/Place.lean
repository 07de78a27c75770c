import FixtureKeywords.Markup.Line

/-!
# Places in a text

A place is counted in characters, in lines, and in columns of its line; a byte order
mark takes no column. A cursor is a place with the text that follows it.
-/

namespace FixtureKeywords.Markup

/-- A place in a text, all counted from 0. -/
structure Place where
  index : Nat
  line : Nat
  column : Nat
deriving DecidableEq, Repr

def Place.after (c : Char) (p : Place) : Place :=
  if isBreak c then ⟨p.index + 1, p.line + 1, 0⟩
  else ⟨p.index + 1, p.line, if c = '\ufeff' then p.column else p.column + 1⟩

/-- A place in a text and what follows it. -/
structure Cursor where
  place : Place
  rest : Text
deriving DecidableEq, Repr

namespace Cursor

def start (t : Text) : Cursor :=
  ⟨⟨0, 0, 0⟩, t⟩

/-- Moves over some characters. -/
def skip : Nat → Cursor → Cursor
  | n + 1, ⟨place, c :: rest⟩ => skip n ⟨place.after c, rest⟩
  | _, cursor => cursor

/-- Moves on to the place in front of an end of the text. -/
def moveTo (rest : Text) (cursor : Cursor) : Cursor :=
  cursor.skip (cursor.rest.length - rest.length)

end Cursor

/-- Passes over spaces, line breaks and comments: whether there was a line break, and
what follows. -/
def passIdle (inComment broken : Bool) : Text → Bool × Text
  | [] => (broken, [])
  | c :: rest =>
      if isBreak c then passIdle false true rest
      else if inComment || c == '#' then passIdle true broken rest
      else if c = ' ' then passIdle false broken rest
      else (broken, c :: rest)

end FixtureKeywords.Markup
