import FixtureKeywords.Fault
import FixtureKeywords.Settings.Basic

/-!
# Fields

Checking of single entries of a configuration. A check gives a value or all that
is wrong with the entry. Integers are also read from truth values, from numbers
whose fraction is zero, and from texts; a text stays a text, and bytes that encode one
are one. A text is an integer as it stands, or after it has been cleaned of what may
stand around the digits.
-/

namespace FixtureKeywords

/-- The outcome of a check: a value, or what is wrong. -/
abbrev Checked (α : Type) := Except (List Issue) α

namespace Checked

def fail (path : List PathStep) (kind : IssueKind) : Checked α :=
  .error [⟨path, kind⟩]

def issues (c : Checked α) : List Issue :=
  match c with
  | .ok _ => []
  | .error issues => issues

end Checked

namespace Field

/-- An integer from a number with a fraction. -/
def ofDouble (x : Double) : Except IssueKind Int :=
  match x, x.integer? with
  | .finite .., some n => if n.natAbs < Nat.pow 2 63 then .ok n else .error .hugeInteger
  | .finite .., none => .error .fractionalInteger
  | _, _ => .error .infiniteInteger

/-- Whether a character may stand around an integer: a blank that is not one of the
four separators of records. -/
def isMargin (c : Char) : Bool :=
  Text.isBlank c && !(0x1C ≤ c.toNat && c.toNat ≤ 0x1F)

/-- A text without what may stand around an integer. -/
def withoutMargins (t : Text) : Text :=
  ((t.dropWhile isMargin).reverse.dropWhile isMargin).reverse

/-- An integer from a text that holds nothing but a minus sign, perhaps, and digits
without zeros in front. -/
def ofNumeral (t : Text) : Except IssueKind Int :=
  let body := if t.head? = some '-' then t.drop 1 else t
  let digits := body.takeWhile Char.isDigit
  if digits.isEmpty || (digits.head? == some '0' && digits.length != 1) then
    .error .unreadableInteger
  else if Text.digitLimit < t.length - body.length + digits.length then .error .hugeInteger
  else if digits.length ≠ body.length then .error .unreadableInteger
  else if t.head? = some '-' then .ok (-(Text.value digits : Int))
  else .ok (Text.value digits)

/-- Whether a character may start an integer that has no zeros in front. -/
def startsNumeral (c : Char) : Bool :=
  ('1' ≤ c && c ≤ '9') || c == '-'

/-- What is left of a text when zeros and underscores in front are passed over, the
last of them being `last`. That one is kept in front of a point and at the end. -/
def behindZeros? (last : Char) : Text → Option Text
  | [] => some [last]
  | c :: rest =>
      if c = '0' ∨ c = '_' then behindZeros? c rest
      else if c = '.' then some (last :: c :: rest)
      else if startsNumeral c then some (c :: rest)
      else none

/-- A text without zeros in front, if it starts like an integer. -/
def withoutZeros? (t : Text) : Option Text :=
  match t with
  | [] => none
  | c :: rest =>
      if c = '0' then behindZeros? c rest
      else if startsNumeral c then some t
      else none

def withoutZeroFraction (t : Text) : Text :=
  match t.dropWhile (· != '.') with
  | _ :: zeros => if !zeros.isEmpty && zeros.all (· == '0') then t.takeWhile (· != '.') else t
  | [] => t

/-- A text without single underscores inside; with others it stays as it is. -/
def withoutGaps (t : Text) : Text :=
  let parts := t.splitOn '_'
  if parts.any List.isEmpty then t else parts.flatten

/-- A text without what an integer may have around it, if it starts like one: margins,
a plus sign, zeros in front, a fraction of zeros, and single underscores. -/
def cleaned? (t : Text) : Option Text := do
  let t := withoutMargins t
  let unsigned ← match t with
    | '+' :: '-' :: _ => none
    | '+' :: rest => some rest
    | rest => some rest
  some (withoutGaps (withoutZeroFraction (← withoutZeros? unsigned)))

/-- An integer from a text. A text that is too long as it stands is refused as such;
one that has to be cleaned first is not. -/
def ofText (t : Text) : Except IssueKind Int :=
  match ofNumeral t with
  | .ok n => .ok n
  | .error .hugeInteger => .error .hugeInteger
  | .error _ =>
      match (cleaned? t).map ofNumeral with
      | some (.ok n) => .ok n
      | _ => .error .unreadableInteger

def integer (d : Datum) : Except IssueKind Int :=
  match d with
  | .scalar (.whole n) => .ok n
  | .scalar (.truth b) => .ok (if b then 1 else 0)
  | .scalar (.floating x) => ofDouble x
  | .scalar (.text s) => ofText s.toList
  | .scalar (.binary _ encoded) =>
      match encoded with
      | some s => ofText s.toList
      | none => .error .unreadableInteger
  | _ => .error .notAnInteger

/-- An integer of at least one. -/
def positive (path : List PathStep) (d : Datum) : Checked Int :=
  match integer d with
  | .error kind => .fail path kind
  | .ok n => if n < 1 then .fail path .belowOne else .ok n

/-- The text of a datum; bytes count as the text that they encode. -/
def text? (d : Datum) : Option String :=
  match d with
  | .scalar (.text s) => some s
  | .scalar (.binary _ encoded) => encoded
  | _ => none

def text (path : List PathStep) (d : Datum) : Checked String :=
  match text? d with
  | some s => .ok s
  | none => .fail path .notText

def policy (path : List PathStep) (d : Datum) : Checked ZonePolicy :=
  match d.asText?.bind ZonePolicy.ofName? with
  | some p => .ok p
  | none => .fail path .notAChoice

/-- A seed: nothing, an integer or a text. Another datum is tried as an integer and then
as a text, and is wrong as both. -/
def seed (path : List PathStep) (d : Datum) : Checked (Option Seed) :=
  match d with
  | .scalar .null => .ok none
  | .scalar (.text s) => .ok (some (.text s.toList))
  | d =>
      match integer d with
      | .ok n => .ok (some (.number n))
      | .error kind =>
          match text? d with
          | some s => .ok (some (.text s.toList))
          | none => .error [⟨path ++ [.key "int"], kind⟩, ⟨path ++ [.key "str"], .notText⟩]

end Field

end FixtureKeywords
