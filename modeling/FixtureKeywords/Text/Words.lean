import FixtureKeywords.Fault

/-!
# Words of a command line

A command line is split at blanks. Quotes keep blanks in a word: nothing is special
between apostrophes, and between double quotes a backslash is, in front of a double
quote or another backslash. Elsewhere a backslash takes the next character as it is.

`join` writes words back, each one quoted as far as it needs to be.
-/

namespace FixtureKeywords.Text

def isSeparator (c : Char) : Bool :=
  c == ' ' || c == '\t' || c == '\r' || c == '\n'

/-- What encloses the next character of a command line. -/
inductive Quoting where
  | plain
  | single
  | double
  /-- After a backslash; `inDouble` says that it stands between double quotes. -/
  | escape (inDouble : Bool)
deriving DecidableEq, Repr

/-- What is missing where a command line ends before it is closed. -/
def Quoting.fault? : Quoting → Option Fault
  | .plain => none
  | .single | .double => some .unclosedQuote
  | .escape _ => some .danglingEscape

/-- Puts a word in front of the words that follow, if there is one. -/
def consWord (word : Option Text) (words : List Text) : List Text :=
  match word with
  | some w => w :: words
  | none => words

/-- Splits a command line from a place on; `word` is the word begun before it. -/
def splitFrom (quoting : Quoting) (word : Option Text) : Text → Except Fault (List Text)
  | [] =>
      match quoting.fault? with
      | none => .ok (consWord word [])
      | some fault => .error fault
  | c :: rest =>
      let soFar := word.getD []
      match quoting with
      | .plain =>
          if isSeparator c then (splitFrom .plain none rest).map (consWord word)
          else if c = '\'' then splitFrom .single (some soFar) rest
          else if c = '"' then splitFrom .double (some soFar) rest
          else if c = '\\' then splitFrom (.escape false) (some soFar) rest
          else splitFrom .plain (some (soFar ++ [c])) rest
      | .single =>
          if c = '\'' then splitFrom .plain (some soFar) rest
          else splitFrom .single (some (soFar ++ [c])) rest
      | .double =>
          if c = '"' then splitFrom .plain (some soFar) rest
          else if c = '\\' then splitFrom (.escape true) (some soFar) rest
          else splitFrom .double (some (soFar ++ [c])) rest
      | .escape true =>
          let kept := if c = '"' ∨ c = '\\' then [c] else ['\\', c]
          splitFrom .double (some (soFar ++ kept)) rest
      | .escape false => splitFrom .plain (some (soFar ++ [c])) rest

/-- The words of a command line. -/
def words (t : Text) : Except Fault (List Text) :=
  splitFrom .plain none t

/-- Whether a character needs no quotes. -/
def isSafe (c : Char) : Bool :=
  c.isAlphanum || "_@%+=:,./-".toList.contains c

/-- A word as it is written in a command line. -/
def quotedWord (word : Text) : Text :=
  if !word.isEmpty && word.all isSafe then word
  else
    let body := word.flatMap fun c => if c = '\'' then "'\"'\"'".toList else [c]
    '\'' :: body ++ ['\'']

/-- Words as a command line. -/
def join (words : List Text) : Text :=
  " ".toList.intercalate (words.map quotedWord)

end FixtureKeywords.Text
