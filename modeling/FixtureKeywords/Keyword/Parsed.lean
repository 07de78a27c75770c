import FixtureKeywords.Keyword.Rule

/-!
# Parsed keywords

A keyword is read by elimination. The rules of a table are taken in order; each
one looks for its fragments in the text that is left, reads their payloads, and
blanks them out. What survives all rules has to be the bare envelope. Since a
rule sees the text that earlier rules left, a rule whose payload may contain
other modifiers comes first.

Faults are found in this order: a text without the family's envelope; then, rule
by rule, a modifier that occurs too often and a payload that cannot be read; then
modifiers that exclude one another; then text that is left over.
-/

namespace FixtureKeywords

/-- The values of the modifiers of one keyword, under the names of their rules and
in the order of the table; `text` is the keyword without the blanks around it. -/
structure Parsed (α : Type) where
  family : Family
  text : Text
  values : List (String × List α)
deriving DecidableEq, Repr

namespace Parsed

/-- The values of a modifier, in order of appearance. -/
def all (p : Parsed α) (name : String) : List α :=
  (p.values.lookup name).getD []

/-- Whether a modifier occurs. -/
def has (p : Parsed α) (name : String) : Bool :=
  !(p.all name).isEmpty

/-- The first value of a modifier. -/
def first? (p : Parsed α) (name : String) : Option α :=
  (p.all name).head?

/-- All values, in the order of the table. -/
def flat (p : Parsed α) : List α :=
  p.values.flatMap Prod.snd

end Parsed

namespace Rule

/-- Applies one rule to the text that is left: its values and the text without
its fragments. -/
def extract (rule : Rule α) (family : Family) (keyword reduced : Text) :
    Except Fault (List α × Text) :=
  let pieces := Piece.split rule.recognise reduced
  let found := Piece.fragments pieces
  if rule.limit.any (· < found.length) then
    .error (.format (.repeated rule.name family (String.ofList keyword)))
  else do
    let values ← found.mapM rule.read
    .ok (values, Piece.blanked pieces)

/-- Applies the rules of a table in order. -/
def extractAll (family : Family) (keyword : Text) :
    List (Rule α) → Text → Except Fault (List (String × List α) × Text)
  | [], reduced => .ok ([], reduced)
  | rule :: rules, reduced => do
      let (values, next) ← rule.extract family keyword reduced
      let (others, left) ← extractAll family keyword rules next
      .ok (if values.isEmpty then others else (rule.name, values) :: others, left)

end Rule

namespace Parsed

/-- Fails when two modifiers of one group occur. -/
def checkExclusive (p : Parsed α) : List (List String) → Except Fault Unit
  | [] => .ok ()
  | group :: groups =>
      let present := group.filter p.has
      if 1 < present.length then
        .error (.format (.together present (String.ofList p.text)))
      else p.checkExclusive groups

/-- Reads a keyword of a family by the rules of a table. -/
def parse (text : Text) (family : Family) (rules : List (Rule α))
    (exclusive : List (List String)) : Except Fault (Parsed α) :=
  if family.encloses text then do
    let keyword := Text.strip text
    let (values, left) ← Rule.extractAll family keyword rules keyword
    let parsed : Parsed α := ⟨family, keyword, values⟩
    parsed.checkExclusive exclusive
    if family.isBare left then .ok parsed
    else .error (.format (.leftover (String.ofList left)))
  else .error (.format (.notEnclosed (String.ofList text) family))

end Parsed

end FixtureKeywords
