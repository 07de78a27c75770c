import FixtureKeywords.Text.Blank

/-!
# Decimal numerals

Numerals are runs of the ten ASCII digits; digits of other scripts are ordinary
characters. A numeral of more than `digitLimit` digits is never read, leading
zeros included: its value is refused before it is computed. The printing side has
the same limit for integers of any size; besides, there is padding to a fixed width.
-/

namespace FixtureKeywords.Text

def digitValue (c : Char) : Nat :=
  c.toNat - 48

/-- The number written by a run of digits. -/
def value (digits : Text) : Nat :=
  digits.foldl (fun n d => 10 * n + digitValue d) 0

/-- The longest numeral that is read as a number. -/
def digitLimit : Nat := 4300

/-- A numeral with more digits than are read; the number of its digits is kept. -/
structure TooLong where
  digits : Nat
deriving DecidableEq, Repr

/-- Reads a run of digits, unless it is too long. -/
def readDigits (digits : Text) : Except TooLong Nat :=
  if digits.length ≤ digitLimit then .ok (value digits) else .error ⟨digits.length⟩

/-- Whether a text is a non-empty run of digits. -/
def isNumeral (t : Text) : Bool :=
  !t.isEmpty && t.all Char.isDigit

/-- The digits of a numeral in which single underscores may stand between digits. -/
def digitsWithGaps? : Text → Option Text
  | [] => some []
  | c :: '_' :: d :: rest =>
      if c.isDigit ∧ d.isDigit then (digitsWithGaps? (d :: rest)).map (c :: ·) else none
  | c :: rest => if c.isDigit then (digitsWithGaps? rest).map (c :: ·) else none

/-- A sign and the digits after it. -/
structure Signed where
  negative : Bool
  digits : Text
deriving DecidableEq, Repr

def Signed.read (s : Signed) : Except TooLong Int :=
  (readDigits s.digits).map fun n => if s.negative then -(n : Int) else n

/-- Splits an optionally signed numeral; `plus` says whether a plus sign is a sign. -/
def signed? (plus : Bool) : Text → Option Signed
  | '-' :: ds => if isNumeral ds then some ⟨true, ds⟩ else none
  | '+' :: ds => if plus && isNumeral ds then some ⟨false, ds⟩ else none
  | ds => if isNumeral ds then some ⟨false, ds⟩ else none

/-- Whether an integer can be written, which is so up to as many digits as are read. -/
def isWritable (n : Int) : Bool :=
  (Nat.toDigits 10 n.natAbs).length ≤ digitLimit

/-- A number with zeros in front up to `width` digits. -/
def padded (width n : Nat) : String :=
  let digits := toString n
  String.ofList (List.replicate (width - digits.length) '0') ++ digits

/-- A number with spaces in front up to `width` characters. -/
def spacePadded (width n : Nat) : String :=
  let digits := toString n
  String.ofList (List.replicate (width - digits.length) ' ') ++ digits

/-- An integer with its sign, a plus for zero. -/
def withSign (n : Int) : String :=
  if n < 0 then toString n else "+" ++ toString n

/-- A length of time as whole days, counted down, and the seconds above them. -/
def lengthOfTime (seconds : Int) : String :=
  let days := seconds / 86400
  let above := seconds % 86400
  let parts := (if days = 0 then [] else [s!"days={days}"]) ++
    if above = 0 then [] else [s!"seconds={above}"]
  "datetime.timedelta(" ++ (if parts.isEmpty then "0" else ", ".intercalate parts) ++ ")"

end FixtureKeywords.Text
