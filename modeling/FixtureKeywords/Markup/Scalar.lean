import FixtureKeywords.Datum
import FixtureKeywords.Markup.Quoted

/-!
# The values of plain scalars

A scalar written without quotes is a null, a truth value, an integer, a number
with a fraction, a date, a moment, or a text, by its spelling alone (YAML 1.1).
Integers are decimal, octal with a leading zero, hexadecimal, binary, or of base
sixty with colons; underscores between digits are passed over. A scalar may have the
spelling of a number or a date and still no value.
-/

namespace FixtureKeywords.Markup

/-- The spellings of nothing. -/
def nulls : List String := ["", "~", "null", "Null", "NULL"]

/-- The spellings of true. -/
def yeses : List String :=
  ["yes", "Yes", "YES", "true", "True", "TRUE", "on", "On", "ON"]

/-- The spellings of false. -/
def noes : List String :=
  ["no", "No", "NO", "false", "False", "FALSE", "off", "Off", "OFF"]

def isDigitOrGap (c : Char) : Bool :=
  c.isDigit || c == '_'

/-- The digits without underscores. -/
def withoutGaps (t : Text) : Text :=
  t.filter (· != '_')

def splitColons (t : Text) : List Text :=
  t.splitOn ':'

/-- Whether a part of a number of base sixty is below sixty in at most two digits. -/
def isSixty (t : Text) : Bool :=
  match t with
  | [a] => a.isDigit
  | [a, b] => '0' ≤ a && a ≤ '5' && b.isDigit
  | _ => false

/-- The number that parts of base sixty write. -/
def sixties (parts : List Nat) : Nat :=
  parts.foldl (fun n p => 60 * n + p) 0

/-- Splits a sign off: whether it is a minus, and the rest. -/
def unsigned (t : Text) : Bool × Text :=
  match t with
  | '-' :: rest => (true, rest)
  | '+' :: rest => (false, rest)
  | rest => (false, rest)

/-- The number that digits write to a base; underscores alone write none. -/
def ofDigits (base : Nat) (digits : Text) : Except Fault Nat :=
  if (withoutGaps digits).isEmpty then .error (.scalar (.noDigits base))
  else .ok (valueIn base (withoutGaps digits))

/-- The integer without its sign that a text spells, if it spells one. -/
def natural? (t : Text) : Option (Except Fault Nat) :=
  match t with
  | ['0'] => some (.ok 0)
  | '0' :: 'b' :: digits =>
      if !digits.isEmpty && digits.all fun c => c == '0' || c == '1' || c == '_' then
        some (ofDigits 2 digits)
      else none
  | '0' :: 'x' :: digits =>
      if !digits.isEmpty && digits.all fun c => isHexDigit c || c == '_' then
        some (ofDigits 16 digits)
      else none
  | '0' :: digits =>
      if !digits.isEmpty && digits.all fun c => ('0' ≤ c && c ≤ '7') || c == '_' then
        some (.ok (valueIn 8 (withoutGaps digits)))
      else none
  | first :: _ =>
      if !first.isDigit then none
      else if t.all isDigitOrGap then some (Fault.liftNumeral (Text.readDigits (withoutGaps t)))
      else
        match splitColons t with
        | head :: parts =>
            if head.all isDigitOrGap && parts.all isSixty then
              some ((Fault.liftNumeral (Text.readDigits (withoutGaps head))).map fun n =>
                sixties (n :: parts.map Text.value))
            else none
        | [] => none
  | [] => none

/-- The exponent that ends a number: `e`, a sign and digits, or nothing. -/
def exponent? (t : Text) : Option Int :=
  match t with
  | [] => some 0
  | mark :: sign :: digits =>
      if (mark == 'e' || mark == 'E') && (sign == '+' || sign == '-') && Text.isNumeral digits then
        some (if sign == '-' then -(Text.value digits : Int) else Text.value digits)
      else none
  | _ => none

/-- The number with a fraction that a text spells, if it spells one. -/
def floating? (t : Text) : Option Double :=
  let (negative, body) := unsigned t
  if [".inf", ".Inf", ".INF"].contains (String.ofList body) then some (.infinite negative)
  else if [".nan", ".NaN", ".NAN"].contains (String.ofList t) then some .notANumber
  else
    let whole := body.takeWhile fun c => isDigitOrGap c || c == ':'
    match body.dropWhile fun c => isDigitOrGap c || c == ':' with
    | '.' :: rest =>
        let fraction := withoutGaps (rest.takeWhile isDigitOrGap)
        let tail := rest.dropWhile isDigitOrGap
        let number (digits : Nat) (exponent : Int) : Double :=
          .ofDecimal negative digits (exponent - fraction.length)
        match splitColons whole with
        | [[]] =>
            if t.head? == some '.' && rest.head?.any Char.isDigit then
              (exponent? tail).map (number (Text.value fraction))
            else none
        | [digits] =>
            if digits.head?.any Char.isDigit then
              (exponent? tail).map (number (Text.value (withoutGaps digits ++ fraction)))
            else none
        | head :: parts =>
            if head.head?.any Char.isDigit && head.all isDigitOrGap && parts.all isSixty &&
                tail.isEmpty then
              let n := sixties (Text.value (withoutGaps head) :: parts.map Text.value)
              some (number (n * Nat.pow 10 fraction.length + Text.value fraction) 0)
            else none
        | [] => none
    | _ => none

/-- Takes between `least` and `most` digits from the front of a text. -/
def takeDigits? (least most : Nat) (t : Text) : Option (Nat × Text) :=
  let digits := (t.take most).takeWhile Char.isDigit
  if least ≤ digits.length then some (Text.value digits, t.drop digits.length) else none

/-- A time of the day as it is written, with an offset in seconds. -/
structure WrittenTime where
  hour : Nat
  minute : Nat
  second : Nat
  micros : Nat
  offset : Option Int
deriving DecidableEq, Repr

/-- The offset that ends a time: `Z`, or a sign and hours, perhaps with minutes. -/
def offset? (t : Text) : Option Int := do
  match t with
  | ['Z'] => some 0
  | sign :: rest => do
      if sign ≠ '+' ∧ sign ≠ '-' then none else
      let (hours, rest) ← takeDigits? 1 2 rest
      let minutes ← match rest with
        | [] => some 0
        | ':' :: [a, b] =>
            if a.isDigit ∧ b.isDigit then some (Text.value [a, b]) else none
        | _ => none
      let seconds : Int := (hours * 60 + minutes) * 60
      some (if sign = '-' then -seconds else seconds)
  | [] => none

/-- A time of the day, perhaps with a fraction of the seconds, of which six digits
count, and with an offset behind blanks. -/
def writtenTime? (t : Text) : Option WrittenTime := do
  let (hour, t) ← takeDigits? 1 2 t
  let (minute, t) ← takeDigits? 2 2 (← Text.dropChar? ':' t)
  let (second, t) ← takeDigits? 2 2 (← Text.dropChar? ':' t)
  let (fraction, t) := match t with
    | '.' :: rest => (rest.takeWhile Char.isDigit, rest.dropWhile Char.isDigit)
    | rest => ([], rest)
  let six := fraction.take 6
  let micros := Text.value six * Nat.pow 10 (6 - six.length)
  if t.isEmpty then some ⟨hour, minute, second, micros, none⟩
  else
    let offset ← offset? (t.dropWhile isSpace)
    some ⟨hour, minute, second, micros, some offset⟩

/-- A date as it is written, perhaps with a time of the day. -/
def writtenDate? (t : Text) : Option (Date × Option WrittenTime) := do
  let (year, rest) ← takeDigits? 4 4 t
  let (month, rest) ← takeDigits? 1 2 (← Text.dropChar? '-' rest)
  let (day, rest) ← takeDigits? 1 2 (← Text.dropChar? '-' rest)
  let date : Date := ⟨year, month, day⟩
  match rest with
  | [] => if t.length = 10 then some (date, none) else none
  | mark :: more =>
      let time ←
        if mark = 'T' ∨ mark = 't' then some more
        else if isSpace mark then some (more.dropWhile isSpace)
        else none
      some (date, some (← writtenTime? time))

/-- What is wrong with a date that does not exist. -/
def dateFault? (d : Date) : Option ScalarFault :=
  if d.year < 1 then some (.yearOutOfRange d.year.toNat)
  else if d.month < 1 ∨ 12 < d.month then some .monthOutOfRange
  else if d.isValid then none
  else some .dayOutOfRange

/-- What is wrong with a time of the day that does not exist. -/
def timeFault? (t : WrittenTime) : Option ScalarFault :=
  if 23 < t.hour then some .hourOutOfRange
  else if 59 < t.minute then some .minuteOutOfRange
  else if 59 < t.second then some .secondOutOfRange
  else none

/-- What is wrong with an offset of a day or more. -/
def offsetFault? (t : WrittenTime) : Option ScalarFault :=
  t.offset.bind fun seconds =>
    if seconds.natAbs < 86400 then none else some (.offsetTooLarge seconds)

/-- The scalar of a written date. Of several faults that of the offset counts first,
then that of the date. -/
def dated (d : Date) (time : Option WrittenTime) : Except ScalarFault Scalar :=
  match ((time.bind offsetFault?).or (dateFault? d)).or (time.bind timeFault?) with
  | some cause => .error cause
  | none =>
      match time with
      | none => .ok (.date d.year.toNat d.month d.day)
      | some t =>
          let reading := Reading.midnight d + Reading.ofClock t.hour t.minute t.second t.micros
          .ok (.moment ⟨reading, t.offset.map (· * Reading.second)⟩)

/-- The scalar that a text without quotes spells. -/
def resolve (t : Text) : Except Fault Scalar :=
  let word := String.ofList t
  if nulls.contains word then .ok .null
  else if yeses.contains word then .ok (.truth true)
  else if noes.contains word then .ok (.truth false)
  else
    let (negative, body) := unsigned t
    match natural? body with
    | some n => n.map fun n => .whole (if negative then -(n : Int) else n)
    | none =>
        match floating? t with
        | some x => .ok (.floating x)
        | none =>
            match writtenDate? t with
            | some (d, time) => (dated d time).mapError .scalar
            | none => .ok (.text word)

end FixtureKeywords.Markup
