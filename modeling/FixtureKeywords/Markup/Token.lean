import FixtureKeywords.Markup.Literal
import FixtureKeywords.Markup.Place
import FixtureKeywords.Markup.Plain
import FixtureKeywords.Markup.Quoted

/-!
# Tokens

A markup text as a list of tokens: scalars, the marks between them, and the starts
and ends of blocks, which are told by columns. A text that cannot be read to its end
has a last token that says why.

Whether a scalar or a collection in brackets is a key shows only at the colon behind
it. Until then it is a candidate, and so are those of the collections around it. The
mark of a key, and the start of the block that the key opens, are put in front of
the candidate when the colon comes. A candidate expires at the end of its line and
after 1024 characters; where the column of a block leaves no choice but a key, this
is a fault.
-/

namespace FixtureKeywords.Markup

/-- A token of a markup text. -/
inductive Token where
  | documentStart
  | documentEnd
  | textEnd
  | blockList
  | blockTable
  | blockEnd
  | item
  | key
  | value
  | openList
  | closeList
  | openTable
  | closeTable
  | separator
  | scalar (plain : Bool) (text : Text)
  | unreadable (fault : Fault)
deriving DecidableEq, Repr

/-- What becomes a key if a colon follows in time: its place, the number of tokens in
front of it, and whether it has to become one. -/
structure Candidate where
  place : Place
  position : Nat
  required : Bool
deriving DecidableEq, Repr

/-- Whether a candidate may still become a key at a later place. -/
def Candidate.isFresh (p : Place) (k : Candidate) : Bool :=
  k.place.line == p.line && p.index ≤ k.place.index + 1024

/-- A text that has been read up to a cursor: the tokens so far, the columns of the
open blocks, the candidate in the innermost collection, those in the collections
around it, and whether a key may start at the cursor. In every list the innermost
one comes first. -/
structure Lexer where
  cursor : Cursor
  tokens : List Token
  columns : List Nat
  candidate : Option Candidate
  outer : List (Option Candidate)
  keyMayStart : Bool
deriving DecidableEq, Repr

namespace Lexer

def start (t : Text) : Lexer :=
  ⟨.start t, [], [], none, [], true⟩

/-- Whether the cursor is inside brackets or braces. -/
def inFlow (s : Lexer) : Bool :=
  !s.outer.isEmpty

def column (s : Lexer) : Nat :=
  s.cursor.place.column

/-- The least column that is further in than the innermost block. -/
def innerColumn (s : Lexer) : Nat :=
  (s.columns.head?.map (· + 1)).getD 0

def candidates (s : Lexer) : List Candidate :=
  (s.candidate :: s.outer).filterMap id

/-- Adds a token that ends `n` characters on. -/
def emit (n : Nat) (token : Token) (s : Lexer) : Lexer :=
  { s with cursor := s.cursor.skip n, tokens := s.tokens ++ [token] }

/-- Adds a token that goes up to an end of the text. -/
def emitTo (rest : Text) (token : Token) (s : Lexer) : Lexer :=
  { s with cursor := s.cursor.moveTo rest, tokens := s.tokens ++ [token] }

/-- Puts a token in front of others. -/
def insert (position : Nat) (token : Token) (s : Lexer) : Lexer :=
  { s with tokens := s.tokens.take position ++ token :: s.tokens.drop position }

/-- Opens a block in a column, unless it is open. -/
def openBlock (position column : Nat) (token : Token) (s : Lexer) : Lexer :=
  if s.innerColumn ≤ column then
    { s.insert position token with columns := column :: s.columns }
  else s

/-- Closes the blocks that are at least `least` columns in. -/
def closeBlocks (least : Nat) (s : Lexer) : Lexer :=
  if s.inFlow then s
  else
    let columns := s.columns.dropWhile (least ≤ ·)
    let closed := s.columns.length - columns.length
    { s with columns, tokens := s.tokens ++ List.replicate closed .blockEnd }

/-- Gives the candidate of the innermost collection up. -/
def drop (s : Lexer) : Except Fault Lexer :=
  if s.candidate.any Candidate.required then .error .markupCharacter
  else .ok { s with candidate := none }

/-- Makes the next token a candidate, if a key may start here. In the column of the
block around it, it has to become a key. -/
def propose (s : Lexer) : Except Fault Lexer :=
  if s.keyMayStart then do
    let s ← s.drop
    let required := !s.inFlow && s.columns.head? == some s.column
    .ok { s with candidate := some ⟨s.cursor.place, s.tokens.length, required⟩ }
  else .ok s

/-- Gives all candidates up that have expired. -/
def expire (s : Lexer) : Except Fault Lexer :=
  let fresh := Candidate.isFresh s.cursor.place
  if s.candidates.any fun k => k.required && !fresh k then .error .markupCharacter
  else .ok { s with
    candidate := s.candidate.filter fresh
    outer := s.outer.map fun k => k.filter fresh }

def blockMark (block token : Token) (keyMayStart : Bool) (s : Lexer) : Except Fault Lexer := do
  if !s.inFlow && !s.keyMayStart then .error .markupCharacter else
  let s := if s.inFlow then s else s.openBlock s.tokens.length s.column block
  let s ← s.drop
  .ok ({ s with keyMayStart }.emit 1 token)

/-- Reads the colon behind a key; a candidate becomes the key. -/
def colon (s : Lexer) : Except Fault Lexer :=
  match s.candidate with
  | none => s.blockMark .blockTable .value (!s.inFlow)
  | some k =>
      let marked := s.insert k.position .key
      let opened :=
        if s.inFlow then marked else marked.openBlock k.position k.place.column .blockTable
      .ok ({ opened with candidate := none, keyMayStart := false }.emit 1 .value)

/-- Reads an opening bracket or brace. -/
def openFlow (token : Token) (s : Lexer) : Except Fault Lexer := do
  let s ← s.propose
  .ok ({ s with candidate := none, outer := s.candidate :: s.outer, keyMayStart := true }.emit 1
    token)

/-- Reads a closing bracket or brace. -/
def closeFlow (token : Token) (s : Lexer) : Except Fault Lexer := do
  let s ← s.drop
  .ok ({ s with
    candidate := s.outer.head?.join, outer := s.outer.tail, keyMayStart := false }.emit 1 token)

/-- Reads a comma between items. -/
def separator (s : Lexer) : Except Fault Lexer := do
  let s ← s.drop
  .ok ({ s with keyMayStart := true }.emit 1 .separator)

/-- Reads a mark of a document, which closes all blocks. -/
def documentMark (token : Token) (s : Lexer) : Except Fault Lexer := do
  let s ← (s.closeBlocks 0).drop
  .ok ({ s with keyMayStart := false }.emit 3 token)

/-- Reads a literal scalar from its mark on. -/
def literal (folded : Bool) (s : Lexer) : Except Fault Lexer := do
  let s ← s.drop
  let (text, rest) ← readLiteral folded (max 1 s.innerColumn) (s.cursor.rest.drop 1)
  .ok ({ s with keyMayStart := true }.emitTo rest (.scalar false text))

/-- Reads a quoted scalar. -/
def quoted (s : Lexer) : Except Fault Lexer := do
  let s ← s.propose
  let (text, rest) ← readQuoted s.cursor.rest
  .ok ({ s with keyMayStart := false }.emitTo rest (.scalar false text))

/-- Reads a plain scalar with the gap behind it. A key may start in a new line. -/
def plain (s : Lexer) : Except Fault Lexer := do
  let s ← s.propose
  let r := readPlain s.inFlow s.innerColumn .none s.cursor.rest
  .ok ({ s with keyMayStart := r.broken }.emitTo r.rest (.scalar true r.text))

def read (c : Char) (s : Lexer) : Except Fault Lexer :=
  let t := s.cursor.rest
  let alone := startsBlank (t.drop 1)
  if s.column = 0 ∧ startsWithMark startMark t then s.documentMark .documentStart
  else if s.column = 0 ∧ startsWithMark endMark t then s.documentMark .documentEnd
  else if c = '[' then s.openFlow .openList
  else if c = '\x7b' then s.openFlow .openTable
  else if c = ']' then s.closeFlow .closeList
  else if c = '\x7d' then s.closeFlow .closeTable
  else if c = ',' then s.separator
  else if c = '-' ∧ alone then s.blockMark .blockList .item true
  else if c = '?' ∧ (s.inFlow ∨ alone) then s.blockMark .blockTable .key (!s.inFlow)
  else if c = ':' ∧ (s.inFlow ∨ alone) then s.colon
  else if c = '|' ∧ !s.inFlow then s.literal false
  else if c = '>' ∧ !s.inFlow then s.literal true
  else if c = '\'' ∨ c = '"' then s.quoted
  else if startsPlain s.inFlow t then s.plain
  else .error .markupCharacter

/-- Passes over what stands between tokens, and closes the blocks that the next token
is not in. A key may start in a new line. -/
def settle (s : Lexer) : Except Fault Lexer := do
  let (broken, rest) := passIdle false false s.cursor.rest
  let s ← { s with
    cursor := s.cursor.moveTo rest
    keyMayStart := s.keyMayStart || (broken && !s.inFlow) }.expire
  .ok (s.closeBlocks (s.column + 1))

/-- The tokens of a text that was read to its end. -/
def finish (s : Lexer) : Except Fault (List Token) := do
  let s ← (s.closeBlocks 0).drop
  .ok (s.tokens ++ [.textEnd])

/-- The tokens of a text that cannot be read further. Those from the first candidate
on are not known yet. -/
def stop (fault : Fault) (s : Lexer) : List Token :=
  let known := (s.candidates.map Candidate.position).foldl min s.tokens.length
  s.tokens.take known ++ [.unreadable fault]

/-- Reads a text to its end. Each token takes something off the text. -/
def run (s : Lexer) : List Token :=
  match s.settle with
  | .error fault => s.stop fault
  | .ok t =>
      match t.cursor.rest with
      | [] =>
          match t.finish with
          | .ok tokens => tokens
          | .error fault => s.stop fault
      | c :: _ =>
          match (t.read c).bind expire with
          | .error fault => s.stop fault
          | .ok next =>
              if next.cursor.rest.length < s.cursor.rest.length then next.run
              else s.stop .markupCharacter
termination_by s.cursor.rest.length

end Lexer

def Token.ofText (t : Text) : List Token :=
  (Lexer.start t).run

end FixtureKeywords.Markup
