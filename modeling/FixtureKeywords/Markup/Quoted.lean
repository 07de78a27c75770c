import FixtureKeywords.Markup.Line

/-!
# Quoted scalars

A scalar between quotes is a text. Between apostrophes two of them stand for one;
between double quotes a backslash starts an escape, and in front of a line break it
joins the lines. No mark of a document may stand inside.
-/

namespace FixtureKeywords.Markup

def isHexDigit (c : Char) : Bool :=
  c.isDigit || ('a' ≤ c && c ≤ 'f') || ('A' ≤ c && c ≤ 'F')

def hexDigitValue (c : Char) : Nat :=
  if c.isDigit then Text.digitValue c else c.toLower.toNat - 87

def valueIn (base : Nat) (digits : Text) : Nat :=
  digits.foldl (fun n d => base * n + hexDigitValue d) 0

/-- Puts characters in front of what was read. -/
def prepend (front : Text) (r : Except Fault (Text × Text)) : Except Fault (Text × Text) :=
  r.map fun (t, rest) => (front ++ t, rest)

/-- Reads up to the closing apostrophe: the text, and what follows. -/
def readSingle (gap : Gap) : Text → Except Fault (Text × Text)
  | [] => .error .markupCharacter
  | '\'' :: '\'' :: rest => prepend (gap.text ++ ['\'']) (readSingle .none rest)
  | '\'' :: rest => .ok (gap.text, rest)
  | c :: rest =>
      if isSpace c || isBreak c then readSingle (gap.pass c) rest
      else if gap.endsAtMark (c :: rest) then .error .markupCharacter
      else prepend (gap.text ++ [c]) (readSingle .none rest)

def escaped? (c : Char) : Option Char :=
  match c with
  | '0' => some '\x00'
  | 'a' => some '\x07'
  | 'b' => some '\x08'
  | 't' => some '\t'
  | '\t' => some '\t'
  | 'n' => some '\n'
  | 'v' => some '\x0b'
  | 'f' => some '\x0c'
  | 'r' => some '\r'
  | 'e' => some '\x1b'
  | ' ' => some ' '
  | '"' => some '"'
  | '\\' => some '\\'
  | '/' => some '/'
  | 'N' => some '\x85'
  | '_' => some '\xa0'
  | 'L' => some '\u2028'
  | 'P' => some '\u2029'
  | _ => none

/-- How many hexadecimal digits follow an escape by number. -/
def escapeWidth (c : Char) : Nat :=
  if c = 'x' then 2 else if c = 'u' then 4 else if c = 'U' then 8 else 0

def character (n : Nat) : Except Fault Char :=
  if n < 0x110000 then .ok (Char.ofNat n)
  else if n < Nat.pow 2 31 then .error (.scalar .noSuchCharacter)
  else .error .escapeTooLarge

/-- The character that an escape stands for; the escape is given without its
backslash. -/
def escape : Text → Except Fault Char
  | [] => .error .markupCharacter
  | e :: digits =>
      match escapeWidth e, escaped? e with
      | 0, some c => .ok c
      | 0, none => .error .markupCharacter
      | width, _ =>
          let front := digits.take width
          if front.length = width ∧ front.all isHexDigit then character (valueIn 16 front)
          else .error .markupCharacter

/-- Reads up to the closing double quote: the text, and what follows. The first
`skip` characters belong to an escape that was read already. -/
def readDouble (skip : Nat) (gap : Gap) : Text → Except Fault (Text × Text)
  | [] => .error .markupCharacter
  | c :: rest =>
      match skip with
      | skip + 1 => readDouble skip gap rest
      | 0 =>
          if isSpace c || isBreak c then readDouble 0 (gap.pass c) rest
          else if gap.endsAtMark (c :: rest) then .error .markupCharacter
          else if c = '"' then .ok (gap.text, rest)
          else if c ≠ '\\' then prepend (gap.text ++ [c]) (readDouble 0 .none rest)
          else if rest.head?.any isBreak then prepend gap.text (readDouble 1 .afterJoin rest)
          else do
            let d ← escape rest
            prepend (gap.text ++ [d])
              (readDouble (1 + (rest.head?.map escapeWidth).getD 0) .none rest)

def readQuoted (t : Text) : Except Fault (Text × Text) :=
  match t with
  | '\'' :: rest => readSingle .none rest
  | '"' :: rest => readDouble 0 .none rest
  | _ => .error .markupCharacter

end FixtureKeywords.Markup
