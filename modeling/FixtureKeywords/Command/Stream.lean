import FixtureKeywords.Fault

/-!
# Standard output

What a run prints goes through standard output, which may show less of a text than there
is: away from a terminal it drops the sequences that set styles. A text that it cannot
encode it does not take at all.
-/

namespace FixtureKeywords

/-- What is shown of a text, or the kind of the fault with which it is refused. -/
abbrev Stream : Type :=
  String → Except String String

namespace Stream

/-- What follows a sequence that sets a style: an escape and a bracket, then numbers and
the marks between them, then a letter. -/
def dropStyle? : Text → Option Text
  | '\x1b' :: '[' :: rest =>
      match rest.dropWhile fun c => c.isDigit || c == ';' || c == '?' with
      | c :: rest => if c.isAlpha then some rest else none
      | [] => none
  | _ => none

/-- A text without its styles, the first characters being those of a style. -/
def unstyledFrom : Nat → Text → Text
  | _, [] => []
  | styled + 1, _ :: rest => unstyledFrom styled rest
  | 0, c :: rest =>
      match dropStyle? (c :: rest) with
      | some behind => unstyledFrom (rest.length - behind.length) rest
      | none => c :: unstyledFrom 0 rest

/-- A text without its styles. -/
def unstyled (t : Text) : Text :=
  unstyledFrom 0 t

def encoding (knows : Char → Bool) : Stream := fun s =>
  let shown := unstyled s.toList
  if shown.all knows then .ok (String.ofList shown) else .error "UnicodeEncodeError"

/-- A stream away from a terminal that can encode everything. -/
def plain : Stream :=
  encoding fun _ => true

def terminal : Stream :=
  .ok

end Stream

end FixtureKeywords
