import FixtureKeywords.Proofs.Keyword.Parsing
import FixtureKeywords.Proofs.Keyword.Split
import FixtureKeywords.Proofs.Text.Recased

/-!
# Keywords in another case

A recogniser that is caseless finds in a text in lower case what it finds in the text, in lower
case. The two shapes that the families share are caseless, and with caseless recognisers two
texts that differ in case are split at the same places.

So the passes of a table over two such texts go alike, rule by rule: they find as many fragments,
read them alike and leave texts that differ in case again. That is the invariant which carries
the reading as a whole, up to the fault that it may end with.
-/
namespace FixtureKeywords
open Text

namespace Outcome
variable {ε α β γ δ : Type} {R : α → β → Prop} {S : γ → δ → Prop} {E : ε → ε → Prop}

/-- Two outcomes are alike: both are values, or both are errors, and they are related. -/
inductive Alike (R : α → β → Prop) (E : ε → ε → Prop) : Except ε α → Except ε β → Prop
  | ok {a : α} {b : β} : R a b → Alike R E (.ok a) (.ok b)
  | error {e e' : ε} : E e e' → Alike R E (.error e) (.error e')

namespace Alike
variable {x : Except ε α} {y : Except ε β}

theorem bind (h : Alike R E x y) {f : α → Except ε γ} {g : β → Except ε δ}
    (hf : ∀ a b, R a b → Alike S E (f a) (g b)) : Alike S E (x >>= f) (y >>= g) := by
  cases h with
  | ok hab => exact hf _ _ hab
  | error he => exact .error he

theorem map (h : Alike R E x y) {f : α → γ} {g : β → δ} (hf : ∀ a b, R a b → S (f a) (g b)) :
    Alike S E (x.map f) (y.map g) := by
  cases h with
  | ok hab => exact .ok (hf _ _ hab)
  | error he => exact .error he

theorem mapM {f : α → Except ε γ} {g : β → Except ε δ} {as : List α} {bs : List β}
    (h : List.Forall₂ R as bs) (hf : ∀ a b, R a b → Alike S E (f a) (g b)) :
    Alike (List.Forall₂ S) E (as.mapM f) (bs.mapM g) := by
  induction h with
  | nil => exact .ok .nil
  | cons hab _ ih =>
      rw [mapM_cons, mapM_cons]
      exact (hf _ _ hab).bind fun _ _ hcd => ih.map fun _ _ hrest => .cons hcd hrest

end Alike

end Outcome

open Outcome (Alike)

/-- A text that is quoted, in lower case. -/
def quotedFolded (s : String) : String :=
  String.ofList (folded s.toList)

theorem quotedFolded_ofList {t t' : Text} (h : Recased t t') :
    quotedFolded (String.ofList t) = quotedFolded (String.ofList t') := by
  unfold quotedFolded
  rw [String.toList_ofList, String.toList_ofList, h]

/-- A complaint with the texts that it quotes in lower case. -/
def FormatFault.folded : FormatFault → FormatFault
  | unsupported text => unsupported (quotedFolded text)
  | notEnclosed text family => notEnclosed (quotedFolded text) family
  | repeated modifier family keyword => repeated modifier family (quotedFolded keyword)
  | together modifiers keyword => together modifiers (quotedFolded keyword)
  | leftover reduced => leftover (quotedFolded reduced)
  | badInteger value fragment => badInteger (quotedFolded value) (quotedFolded fragment)
  | emptyCharacters fragment => emptyCharacters (quotedFolded fragment)
  | badLength fragment => badLength (quotedFolded fragment)
  | zeroLength fragment => zeroLength (quotedFolded fragment)
  | decreasingLength fragment => decreasingLength (quotedFolded fragment)
  | badRange fragment => badRange (quotedFolded fragment)

/-- Faults of one kind: the same, or complaints of one wording about texts that differ in case. -/
inductive Fault.SameKind : Fault → Fault → Prop
  | refl (fault : Fault) : SameKind fault fault
  | format {cause cause' : FormatFault} : cause.folded = cause'.folded →
      SameKind (.format cause) (.format cause')

theorem alike_liftNumeral {α : Type} (r : Except TooLong α) :
    Alike Eq Fault.SameKind (Fault.liftNumeral r) (Fault.liftNumeral r) := by
  cases Fault.liftNumeral r with
  | error fault => exact .error (.refl fault)
  | ok n => exact .ok rfl

namespace Fragment

/-- A fragment in lower case. -/
def folded (f : Fragment) : Fragment :=
  ⟨Text.folded f.whole, Text.folded f.payload⟩

theorem upTo_folded (t rest payload : Text) :
    upTo (Text.folded t) (Text.folded rest) (Text.folded payload) =
      (upTo t rest payload).folded := by
  unfold upTo folded
  rw [length_folded, length_folded, folded_take]

theorem shown_recased {f f' : Fragment} (h : f.folded = f'.folded) :
    quotedFolded f.shown = quotedFolded f'.shown :=
  quotedFolded_ofList (congrArg Fragment.whole h)

end Fragment

theorem bind_map_eq {α β α' β' : Type} {x : Option α} {f : α → Option β} {g : α → α'}
    {f' : α' → Option β'} {g' : β → β'} (h : ∀ a, f' (g a) = (f a).map g') :
    (x.map g).bind f' = (x.bind f).map g' := by
  cases x with
  | none => rfl
  | some a => exact h a

namespace Recogniser

/-- A recogniser finds in a text in lower case what it finds in the text. -/
def Caseless (recognise : Recogniser) : Prop :=
  ∀ t, recognise (folded t) = (recognise t).map Fragment.folded

theorem dropOpening?_folded (name t : Text) :
    dropOpening? name (folded t) = (dropOpening? name t).map folded := by
  unfold dropOpening?
  simp only [Option.bind_eq_bind, dropChar?_folded t (show '\x7b'.isAlpha = false by decide)]
  refine bind_map_eq fun rest => ?_
  rw [← folded_dropBlanks, dropWord?_folded]

theorem dropClosing?_folded (t : Text) : dropClosing? (folded t) = (dropClosing? t).map folded := by
  unfold dropClosing?
  rw [← folded_dropBlanks, dropChar?_folded _ (by decide)]

theorem isBrace_toLower (c : Char) : isBrace c.toLower = isBrace c := by
  refine apply_toLower (b := false) (fun d hd => ?_) c
  by_contra hbrace
  rw [Bool.not_eq_false] at hbrace
  simp only [isBrace, Bool.or_eq_true, beq_iff_eq] at hbrace
  rcases hbrace with rfl | rfl
  · exact absurd hd (by decide)
  · exact absurd hd (by decide)

theorem caseless_flag (name : Text) : Caseless (flag name) := by
  intro t
  unfold flag
  simp only [Option.bind_eq_bind, dropOpening?_folded]
  refine bind_map_eq fun rest => ?_
  rw [dropClosing?_folded]
  exact bind_map_eq fun rest => congrArg some (Fragment.upTo_folded t rest [])

theorem caseless_assignment (name : Text) : Caseless (assignment name) := by
  intro t
  have hstop (c : Char) : (!isBrace c.toLower) = !isBrace c := by rw [isBrace_toLower]
  unfold assignment
  simp only [Option.bind_eq_bind, dropOpening?_folded]
  refine bind_map_eq fun inner => ?_
  rw [← folded_dropBlanks, dropChar?_folded _ (by decide)]
  refine bind_map_eq fun behind => ?_
  rw [← folded_dropWhile behind hstop, ← folded_takeWhile behind hstop,
    dropChar?_folded _ (by decide)]
  exact bind_map_eq fun rest => congrArg some (Fragment.upTo_folded t rest _)

end Recogniser

namespace Piece
variable {recognise : Recogniser}

/-- A piece in lower case. -/
def folded : Piece → Piece
  | char c => char c.toLower
  | fragment f => fragment f.folded

theorem split_folded (h : recognise.Caseless) (t : Text) :
    split recognise (Text.folded t) = (split recognise t).map folded := by
  -- Fragments in lower case are as long as before, so the same number of characters is skipped.
  have key (t : Text) : ∀ skip,
      splitFrom recognise skip (Text.folded t) = (splitFrom recognise skip t).map folded := by
    induction t with
    | nil => exact fun skip => rfl
    | cons c cs ih =>
        rintro (_ | skip)
        · rw [folded_cons, splitFrom, splitFrom, ← folded_cons, h]
          cases recognise (c :: cs) with
          | none => exact congrArg (char c.toLower :: ·) (ih 0)
          | some f =>
              have hlength : f.folded.whole.length = f.whole.length := length_folded f.whole
              simp only [Option.map_some, hlength, ih, List.map_cons, folded]
        · exact ih skip
  exact key t 0

theorem fragments_map_folded (pieces : List Piece) :
    fragments (pieces.map folded) = (fragments pieces).map Fragment.folded := by
  induction pieces with
  | nil => rfl
  | cons piece pieces ih =>
      cases piece with
      | char c => simpa [folded] using ih
      | fragment f => simpa [folded] using ih

theorem blanked_map_folded (pieces : List Piece) :
    blanked (pieces.map folded) = Text.folded (blanked pieces) := by
  induction pieces with
  | nil => rfl
  | cons piece pieces ih =>
      cases piece with
      | char c => simpa [folded] using ih
      | fragment f => simpa [folded] using ih

theorem split_recased (h : recognise.Caseless) {t t' : Text} (ht : Recased t t') :
    (split recognise t).map folded = (split recognise t').map folded := by
  rw [← split_folded h, ← split_folded h, ht]

theorem fragments_recased (h : recognise.Caseless) {t t' : Text} (ht : Recased t t') :
    List.Forall₂ (fun f f' => f.folded = f'.folded) (fragments (split recognise t))
      (fragments (split recognise t')) := by
  have hfound := congrArg fragments (split_recased h ht)
  rw [fragments_map_folded, fragments_map_folded, ← List.forall₂_eq_eq_eq,
    List.forall₂_map_left_iff, List.forall₂_map_right_iff] at hfound
  exact hfound

end Piece

namespace Rule
variable {α : Type} {R : α → α → Prop} {rule : Rule α} {rules : List (Rule α)}
  {family : Family} {keyword keyword' reduced reduced' : Text}

/-- A rule finds the same in any case, and related values in what differs in case. -/
structure Caseless (R : α → α → Prop) (rule : Rule α) : Prop where
  recognise : rule.recognise.Caseless
  read : ∀ {f f' : Fragment}, f.folded = f'.folded →
    Alike R Fault.SameKind (rule.read f) (rule.read f')

/-- Two records of one modifier. -/
def SameEntry (R : α → α → Prop) (entry entry' : String × List α) : Prop :=
  entry.1 = entry'.1 ∧ List.Forall₂ R entry.2 entry'.2

/-- What two passes come to: records that are related, and texts that differ in case. -/
def SamePass {β : Type} (R : β → β → Prop) (a b : List β × Text) : Prop :=
  List.Forall₂ R a.1 b.1 ∧ Recased a.2 b.2

/-- A pass over texts that differ in case, if what it finds is read alike. -/
theorem alike_extract {P : Fragment → Fragment → Prop} (hrule : rule.recognise.Caseless)
    (hread : ∀ f f', P f f' → Alike R Fault.SameKind (rule.read f) (rule.read f'))
    (hfound : List.Forall₂ P (Piece.fragments (Piece.split rule.recognise reduced))
      (Piece.fragments (Piece.split rule.recognise reduced')))
    (hkeyword : Recased keyword keyword') (hreduced : Recased reduced reduced') :
    Alike (SamePass R) Fault.SameKind (rule.extract family keyword reduced)
      (rule.extract family keyword' reduced') := by
  have hpieces := Piece.split_recased hrule hreduced
  have hblanked : Recased (Piece.blanked (Piece.split rule.recognise reduced))
      (Piece.blanked (Piece.split rule.recognise reduced')) := by
    unfold Recased
    rw [← Piece.blanked_map_folded, hpieces, Piece.blanked_map_folded]
  unfold extract
  dsimp only
  rw [hfound.length_eq]
  split_ifs
  · refine .error (.format ?_)
    simp only [FormatFault.folded, quotedFolded_ofList hkeyword]
  · exact (Alike.mapM hfound hread).bind fun values values' hvalues => .ok ⟨hvalues, hblanked⟩

theorem alike_extractAll_cons
    (hextract : Alike (SamePass R) Fault.SameKind (rule.extract family keyword reduced)
      (rule.extract family keyword' reduced'))
    (hrest : ∀ next next', Recased next next' →
      Alike (SamePass (SameEntry R)) Fault.SameKind (extractAll family keyword rules next)
        (extractAll family keyword' rules next')) :
    Alike (SamePass (SameEntry R)) Fault.SameKind
      (extractAll family keyword (rule :: rules) reduced)
      (extractAll family keyword' (rule :: rules) reduced') := by
  refine hextract.bind fun found found' hfound => ?_
  refine (hrest _ _ hfound.2).bind fun others others' hothers => .ok ⟨?_, hothers.2⟩
  obtain ⟨values, next⟩ := found
  obtain ⟨values', next'⟩ := found'
  -- A rule leaves an entry in both passes or, without values, in none.
  cases hfound.1 with
  | nil => exact hothers.1
  | cons hvalue hvalues => exact .cons ⟨rfl, .cons hvalue hvalues⟩ hothers.1

theorem alike_extractAll (hrules : ∀ rule ∈ rules, rule.Caseless R)
    (hkeyword : Recased keyword keyword') (hreduced : Recased reduced reduced') :
    Alike (SamePass (SameEntry R)) Fault.SameKind (extractAll family keyword rules reduced)
      (extractAll family keyword' rules reduced') := by
  induction rules generalizing reduced reduced' with
  | nil => exact .ok ⟨.nil, hreduced⟩
  | cons rule rules ih =>
      have hrule := hrules rule List.mem_cons_self
      refine alike_extractAll_cons (alike_extract hrule.recognise (fun _ _ => hrule.read)
        (Piece.fragments_recased hrule.recognise hreduced) hkeyword hreduced) ?_
      exact fun _ _ hnext => ih (fun r hr => hrules r (List.mem_cons_of_mem _ hr)) hnext

end Rule

namespace Parsed
variable {α : Type} {R : α → α → Prop} {p p' : Parsed α}

/-- Two parsed keywords with the same modifiers and related values. -/
structure SameModifiers (R : α → α → Prop) (p p' : Parsed α) : Prop where
  family : p.family = p'.family
  text : Recased p.text p'.text
  values : List.Forall₂ (Rule.SameEntry R) p.values p'.values

theorem SameModifiers.all (h : SameModifiers R p p') (name : String) :
    List.Forall₂ R (p.all name) (p'.all name) := by
  have key {entries entries' : List (String × List α)}
      (h : List.Forall₂ (Rule.SameEntry R) entries entries') :
      List.Forall₂ R ((entries.lookup name).getD []) ((entries'.lookup name).getD []) := by
    induction h with
    | nil => exact .nil
    | @cons entry entry' _ _ hentry _ ih =>
        obtain ⟨n, values⟩ := entry
        obtain ⟨n', values'⟩ := entry'
        obtain ⟨rfl, hvalues⟩ := hentry
        rw [List.lookup_cons, List.lookup_cons]
        cases name == n with
        | false => exact ih
        | true => exact hvalues
  exact key h.values

theorem SameModifiers.has_eq (h : SameModifiers R p p') : p.has = p'.has := by
  have hempty {values values' : List α} (hvalues : List.Forall₂ R values values') :
      values.isEmpty = values'.isEmpty := by
    cases hvalues with
    | nil => rfl
    | cons _ _ => rfl
  funext name
  exact congrArg Bool.not (hempty (h.all name))

theorem SameModifiers.alike_checkExclusive (h : SameModifiers R p p')
    (groups : List (List String)) :
    Alike (fun _ _ => True) Fault.SameKind (p.checkExclusive groups)
      (p'.checkExclusive groups) := by
  induction groups with
  | nil => exact .ok trivial
  | cons group groups ih =>
      unfold checkExclusive
      dsimp only
      rw [h.has_eq]
      split_ifs
      · refine .error (.format ?_)
        simp only [FormatFault.folded, quotedFolded_ofList h.text]
      · exact ih

end Parsed

namespace Family
variable {t t' : Text}

theorem dropOpening?_folded (family : Family) (t : Text) :
    family.dropOpening? (folded t) = (family.dropOpening? t).map folded := by
  unfold dropOpening?
  simp only [Option.bind_eq_bind, dropChar?_folded t (show '['.isAlpha = false by decide)]
  refine bind_map_eq fun rest => ?_
  rw [← folded_dropBlanks, dropWord?_folded]

theorem encloses_folded (family : Family) (t : Text) :
    family.encloses (folded t) = family.encloses t := by
  unfold encloses
  rw [← folded_strip, dropOpening?_folded]
  cases family.dropOpening? (strip t) with
  | none => rfl
  | some rest =>
      refine Bool.eq_iff_iff.mpr ?_
      change (folded rest).getLast? == some ']' ↔ rest.getLast? == some ']'
      rw [beq_iff_eq, beq_iff_eq, folded, List.getLast?_map, Option.map_eq_some_iff]
      simp only [toLower_eq_iff (show ']'.isAlpha = false by decide), exists_eq_right]

theorem isBare_folded (family : Family) (t : Text) :
    family.isBare (folded t) = family.isBare t := by
  unfold isBare
  rw [dropOpening?_folded]
  cases family.dropOpening? t with
  | none => rfl
  | some rest =>
      refine Bool.eq_iff_iff.mpr ?_
      rw [Option.map_some, beq_iff_eq, beq_iff_eq, ← folded_dropBlanks, folded,
        List.map_eq_singleton_iff]
      simp only [toLower_eq_iff (show ']'.isAlpha = false by decide), exists_eq_right]

theorem encloses_recased (family : Family) (h : Recased t t') :
    family.encloses t = family.encloses t' := by
  rw [← encloses_folded, h, encloses_folded]

theorem isBare_recased (family : Family) (h : Recased t t') :
    family.isBare t = family.isBare t' := by
  rw [← isBare_folded, h, isBare_folded]

theorem of?_recased (h : Recased t t') : of? t = of? t' := by
  unfold of?
  rw [funext fun family => encloses_recased family h]

end Family

/-- Two texts that differ in case are read alike, if the passes of the table go alike. -/
theorem Parsed.alike_parse {α : Type} {R : α → α → Prop} {t t' : Text} (h : Recased t t')
    {family : Family} {rules : List (Rule α)}
    (hextract : Alike (Rule.SamePass (Rule.SameEntry R)) Fault.SameKind
      (Rule.extractAll family (strip t) rules (strip t))
      (Rule.extractAll family (strip t') rules (strip t')))
    (exclusive : List (List String)) :
    Alike (SameModifiers R) Fault.SameKind (parse t family rules exclusive)
      (parse t' family rules exclusive) := by
  unfold parse
  rw [family.encloses_recased h]
  split_ifs
  · refine hextract.bind fun found found' hfound => ?_
    have hmodifiers : SameModifiers R ⟨family, strip t, found.1⟩ ⟨family, strip t', found'.1⟩ :=
      ⟨rfl, h.strip, hfound.1⟩
    refine (hmodifiers.alike_checkExclusive exclusive).bind fun _ _ _ => ?_
    rw [family.isBare_recased hfound.2]
    split_ifs
    · exact .ok hmodifiers
    · refine .error (.format ?_)
      simp only [FormatFault.folded, quotedFolded_ofList hfound.2]
  · refine .error (.format ?_)
    simp only [FormatFault.folded, quotedFolded_ofList h]

end FixtureKeywords
