import FixtureKeywords.Text.Blank

/-!
# Fragments of a text

A recogniser looks at the start of a text and finds a fragment there or none. A
text is split by a recogniser in one pass from the left: where a fragment is
found it is taken whole, every other character stands for itself. Fragments of
one split never overlap.

`fragments` lists what was found, `blanked` is the text with each fragment
replaced by one space, and `joined` gives the text back.
-/

namespace FixtureKeywords

/-- A piece of a text that was recognised, with the part that carries its value. -/
structure Fragment where
  whole : Text
  payload : Text
deriving DecidableEq, Repr

abbrev Recogniser := Text → Option Fragment

/-- The fragment at the start of `t` that ends where `rest` begins. -/
def Fragment.upTo (t rest payload : Text) : Fragment :=
  ⟨t.take (t.length - rest.length), payload⟩

/-- A piece of a split text. -/
inductive Piece where
  | char (c : Char)
  | fragment (f : Fragment)
deriving DecidableEq, Repr

namespace Piece

/-- Splits a text after passing over its first `skip` characters. -/
def splitFrom (recognise : Recogniser) : Nat → Text → List Piece
  | _, [] => []
  | skip + 1, _ :: cs => splitFrom recognise skip cs
  | 0, c :: cs =>
      match recognise (c :: cs) with
      | some f => fragment f :: splitFrom recognise (f.whole.length - 1) cs
      | none => char c :: splitFrom recognise 0 cs

def split (recognise : Recogniser) (t : Text) : List Piece :=
  splitFrom recognise 0 t

/-- The fragments of a split text, in order. -/
def fragments (pieces : List Piece) : List Fragment :=
  pieces.filterMap fun
    | fragment f => some f
    | char _ => none

def blanked (pieces : List Piece) : Text :=
  pieces.map fun
    | fragment _ => ' '
    | char c => c

def joined (pieces : List Piece) : Text :=
  pieces.flatMap fun
    | fragment f => f.whole
    | char c => [c]

theorem fragments_nil : fragments [] = [] := rfl

theorem blanked_length (pieces : List Piece) : (blanked pieces).length = pieces.length := by
  simp [blanked]

end Piece

/-- A recogniser takes its fragments from the front of the text, and never an
empty one. -/
def Recogniser.Sound (recognise : Recogniser) : Prop :=
  ∀ t f, recognise t = some f → f.whole ≠ [] ∧ ∃ rest, t = f.whole ++ rest

namespace Piece

theorem joined_fragment (f : Fragment) (pieces : List Piece) :
    joined (fragment f :: pieces) = f.whole ++ joined pieces := by
  simp [joined]

theorem joined_char (c : Char) (pieces : List Piece) :
    joined (char c :: pieces) = c :: joined pieces := by
  simp [joined]

/-- Splitting loses nothing: the pieces make up the text that was not passed over. -/
theorem joined_splitFrom {recognise : Recogniser} (sound : recognise.Sound)
    (skip : Nat) (t : Text) : joined (splitFrom recognise skip t) = t.drop skip := by
  induction t generalizing skip with
  | nil => simp [splitFrom, joined]
  | cons c cs ih =>
    cases skip with
    | succ skip => simpa [splitFrom] using ih skip
    | zero =>
      rw [splitFrom]
      split
      next f hf =>
        obtain ⟨nonempty, rest, hrest⟩ := sound _ _ hf
        rw [joined_fragment, ih]
        cases hw : f.whole with
        | nil => exact absurd hw nonempty
        | cons w ws =>
          rw [hw, List.cons_append, List.cons.injEq] at hrest
          simp [hrest.1, hrest.2]
      next _ => simp [joined_char, ih]

/-- The pieces of a split text make up the text. -/
theorem joined_split {recognise : Recogniser} (sound : recognise.Sound) (t : Text) :
    joined (Piece.split recognise t) = t := by
  simpa [Piece.split] using joined_splitFrom sound 0 t

end Piece

end FixtureKeywords
