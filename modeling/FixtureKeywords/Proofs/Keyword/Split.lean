import FixtureKeywords.Keyword.Fragment
import Mathlib.Data.List.Basic

/-!
# Splits of a text that is known

A text is split from the left, and what a recogniser does at one place depends
only on the text from there on. So the split of a text that was put together
from parts can be computed part by part: a fragment that is recognised in front
is taken whole, and a character at which nothing is recognised stands for itself.
-/
namespace FixtureKeywords

namespace Fragment

theorem upTo_append (whole rest payload : Text) :
    upTo (whole ++ rest) rest payload = ⟨whole, payload⟩ := by
  simp [upTo]

end Fragment

namespace Piece

theorem splitFrom_eq_split_drop (recognise : Recogniser) (skip : Nat) (t : Text) :
    splitFrom recognise skip t = split recognise (t.drop skip) := by
  induction t generalizing skip with
  | nil => simp [splitFrom, split]
  | cons c cs ih =>
      cases skip with
      | zero => rfl
      | succ skip => simpa [splitFrom] using ih skip

@[simp] theorem split_nil (recognise : Recogniser) : split recognise [] = [] := rfl

theorem split_char {recognise : Recogniser} {c : Char} {cs : Text}
    (h : recognise (c :: cs) = none) :
    split recognise (c :: cs) = char c :: split recognise cs := by
  simp [split, splitFrom, h]

theorem split_fragment {recognise : Recogniser} {f : Fragment} {rest : Text}
    (h : recognise (f.whole ++ rest) = some f) (hne : f.whole ≠ []) :
    split recognise (f.whole ++ rest) = fragment f :: split recognise rest := by
  cases hw : f.whole with
  | nil => exact absurd hw hne
  | cons w ws =>
      rw [hw, List.cons_append] at h
      simp only [List.cons_append, split, splitFrom, h, hw, List.length_cons,
        Nat.add_sub_cancel]
      rw [splitFrom_eq_split_drop, List.drop_left]
      rfl

theorem split_plain {recognise : Recogniser} {t : Text} (rest : Text)
    (h : ∀ c ∈ t, ∀ cs, recognise (c :: cs) = none) :
    split recognise (t ++ rest) = t.map char ++ split recognise rest := by
  induction t with
  | nil => rfl
  | cons c cs ih =>
      rw [List.cons_append, split_char (h c (by simp) _), ih fun d hd => h d (by simp [hd])]
      rfl

@[simp] theorem fragments_append (ps qs : List Piece) :
    fragments (ps ++ qs) = fragments ps ++ fragments qs := by
  simp [fragments]

@[simp] theorem fragments_fragment (f : Fragment) (ps : List Piece) :
    fragments (fragment f :: ps) = f :: fragments ps := by
  simp [fragments]

@[simp] theorem fragments_char (c : Char) (ps : List Piece) :
    fragments (char c :: ps) = fragments ps := by
  simp [fragments]

@[simp] theorem fragments_map_char (t : Text) : fragments (t.map char) = [] := by
  induction t with
  | nil => rfl
  | cons c cs ih => simpa using ih

@[simp] theorem blanked_append (ps qs : List Piece) :
    blanked (ps ++ qs) = blanked ps ++ blanked qs := by
  simp [blanked]

@[simp] theorem blanked_fragment (f : Fragment) (ps : List Piece) :
    blanked (fragment f :: ps) = ' ' :: blanked ps := by
  simp [blanked]

@[simp] theorem blanked_char (c : Char) (ps : List Piece) :
    blanked (char c :: ps) = c :: blanked ps := by
  simp [blanked]

@[simp] theorem blanked_map_char (t : Text) : blanked (t.map char) = t := by
  induction t with
  | nil => rfl
  | cons c cs ih => simpa using ih

end Piece

end FixtureKeywords
