import FixtureKeywords.Text.DecompositionTable
import FixtureKeywords.Text.Blank

/-!
# Composed form

The canonical composed form of a text: every character is taken apart, the marks
after a letter are sorted by their combining class, and each mark that may be
joined to its letter is joined. Two spellings of an accented letter have one
composed form.

The functions work on code points; `composed` is the one on texts.
-/

namespace FixtureKeywords.Text

/-- The combining class of a code point: 0 for letters, above 0 for marks. -/
def combiningClass (n : Nat) : Nat :=
  match combiningRanges.find? fun (first, last, _) => first ≤ n && n ≤ last with
  | some (_, _, k) => k
  | none => 0

/-- The row of a table of pairs that takes `n` apart. -/
def partsIn (table : List (Nat × Nat × Nat)) (n : Nat) : Option (Nat × Nat) :=
  (table.find? fun row => row.1 == n).map Prod.snd

/-- The code point that `n` alone stands for. -/
def singleton? (n : Nat) : Option Nat := do
  let (first, targets) ← singletonRuns.find? fun (first, targets) =>
    first ≤ n && n < first + targets.length
  targets[n - first]?

/-- The parts of a Hangul syllable: a leading consonant, a vowel, and perhaps a
trailing consonant. -/
def hangulParts? (n : Nat) : Option (List Nat) :=
  if 0xAC00 ≤ n && n < 0xAC00 + 11172 then
    let index := n - 0xAC00
    let head := [0x1100 + index / 588, 0x1161 + index % 588 / 28]
    some (if index % 28 = 0 then head else head ++ [0x11A7 + index % 28])
  else none

/-- Takes a code point apart at most `steps` levels deep. -/
def decomposePoint : Nat → Nat → List Nat
  | 0, n => [n]
  | steps + 1, n =>
      if n < 0xC0 then [n] else
      match hangulParts? n with
      | some parts => parts
      | none =>
        match (partsIn composablePairs n).orElse fun _ => partsIn oneWayPairs n with
        | some (base, mark) => decomposePoint steps base ++ decomposePoint steps mark
        | none =>
          match singleton? n with
          | some target => decomposePoint steps target
          | none => [n]

/-- Takes a code point apart completely: no chain of decompositions is longer
than four. -/
def decomposed (n : Nat) : List Nat :=
  decomposePoint 4 n

/-- A code point with its combining class. -/
structure Mark where
  point : Nat
  rank : Nat
deriving DecidableEq, Repr

/-- Places a mark behind all marks of its own or a lower class. -/
def insertMark (m : Mark) : List Mark → List Mark
  | [] => [m]
  | x :: xs => if x.rank ≤ m.rank then x :: insertMark m xs else m :: x :: xs

/-- Sorts each run of marks; `run` holds the marks since the last letter, sorted. -/
def sortMarks (run : List Mark) : List Mark → List Mark
  | [] => run
  | x :: xs => if x.rank = 0 then run ++ x :: sortMarks [] xs else sortMarks (insertMark x run) xs

/-- The composed character of a base and what follows it, if there is one. -/
def joined? (base next : Nat) : Option Nat :=
  if 0x1100 ≤ base && base < 0x1113 && 0x1161 ≤ next && next < 0x1176 then
    some (0xAC00 + ((base - 0x1100) * 21 + (next - 0x1161)) * 28)
  else if 0xAC00 ≤ base && base < 0xAC00 + 11172 && (base - 0xAC00) % 28 == 0 &&
      0x11A8 ≤ next && next < 0x11C3 then
    some (base + (next - 0x11A7))
  else
    (composablePairs.find? fun (_, b, m) => b == base && m == next).map Prod.fst

/-- Joins marks to the letter before them. `letter` is the current letter and
`pending` holds, last first, the marks that could not be joined to it; a mark is
joined only past marks of a lower class. -/
def joinMarks (letter : Option Nat) (pending : List Mark) : List Mark → List Nat
  | [] => letter.toList ++ (pending.reverse.map Mark.point)
  | x :: xs =>
      let open? := match pending with
        | [] => true
        | p :: _ => p.rank < x.rank
      match (if open? then letter.bind (joined? · x.point) else none) with
      | some whole => joinMarks (some whole) pending xs
      | none =>
          if x.rank = 0 then
            letter.toList ++ pending.reverse.map Mark.point ++ joinMarks (some x.point) [] xs
          else joinMarks letter (x :: pending) xs

def composedPoints (points : List Nat) : List Nat :=
  joinMarks none [] (sortMarks [] ((points.flatMap decomposed).map fun n => ⟨n, combiningClass n⟩))

def composed (t : Text) : Text :=
  (composedPoints (t.map Char.toNat)).map Char.ofNat

end FixtureKeywords.Text
