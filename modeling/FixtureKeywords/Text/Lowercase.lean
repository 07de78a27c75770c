import FixtureKeywords.Text.CaseTable
import FixtureKeywords.Text.Blank

/-!
# Lower case

Full lower case of a text. A letter has one lower-case form wherever it stands,
with two exceptions: the dotted capital i becomes a small i with a dot above,
and a capital sigma at the end of a word becomes the final sigma.
-/

namespace FixtureKeywords.Text

/-- Whether a code point lies in one of the ranges. -/
def inRanges (ranges : List (Nat × Nat)) (c : Char) : Bool :=
  ranges.any fun (first, last) => first ≤ c.toNat && c.toNat ≤ last

/-- Whether a letter with case comes first, characters to be passed over aside. -/
def startsCased (t : Text) : Bool :=
  match t.dropWhile (inRanges ignorableRanges) with
  | [] => false
  | c :: _ => inRanges casedRanges c

/-- The lower-case form of a letter by itself. -/
def lowerChar (c : Char) : Char :=
  if c.toNat < 0x80 then c.toLower else
  match lowercaseRuns.find? fun (first, last, step, _) =>
      first ≤ c.toNat && c.toNat ≤ last && (c.toNat - first) % step == 0 with
  | some (_, _, _, shift) => Char.ofNat (c.toNat + shift).toNat
  | none => c

/-- Lowers a text of which `before` has been read, last character first. -/
def lowerFrom (before : Text) : Text → Text
  | [] => []
  | c :: cs =>
      let here :=
        if c = '\u0130' then ['i', '\u0307']
        else if c = '\u03a3' then
          [if startsCased before && !startsCased cs then '\u03c2' else '\u03c3']
        else [lowerChar c]
      here ++ lowerFrom (c :: before) cs

/-- The lower-case form of a text. -/
def lowered (t : Text) : Text :=
  lowerFrom [] t

end FixtureKeywords.Text
