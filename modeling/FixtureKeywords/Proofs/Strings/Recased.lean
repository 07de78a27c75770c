import FixtureKeywords.Proofs.Keyword.Conservation
import FixtureKeywords.Proofs.Keyword.Recased

/-!
# String keywords in another case

The rule for additions looks ahead for the next opener and back for the last closing, and neither
search minds the case of letters. So two texts that differ in case have additions at the same
places. Their payloads are the one thing in a string keyword that keeps its letters as they were
written; how far a payload runs does not depend on them.
-/
namespace FixtureKeywords
open Text
open Outcome (Alike)

namespace Text

def SamePlace (t t' part part' : Text) : Prop :=
  ∃ before after before' after', t = before ++ (part ++ after) ∧
    t' = before' ++ (part' ++ after') ∧ before.length = before'.length ∧
    part.length = part'.length

variable {t t' part part' : Text}

theorem SamePlace.append_left (h : SamePlace t t' part part') {front front' : Text}
    (hfront : front.length = front'.length) : SamePlace (front ++ t) (front' ++ t') part part' := by
  obtain ⟨before, after, before', after', rfl, rfl, hbefore, hpart⟩ := h
  refine ⟨front ++ before, after, front' ++ before', after', ?_, ?_, ?_, hpart⟩
  · rw [List.append_assoc]
  · rw [List.append_assoc]
  · rw [List.length_append, List.length_append, hfront, hbefore]

theorem SamePlace.append_right (h : SamePlace t t' part part') (rest rest' : Text) :
    SamePlace (t ++ rest) (t' ++ rest') part part' := by
  obtain ⟨before, after, before', after', rfl, rfl, hbefore, hpart⟩ := h
  refine ⟨before, after ++ rest, before', after' ++ rest', ?_, ?_, hbefore, hpart⟩
  · simp only [List.append_assoc]
  · simp only [List.append_assoc]

end Text

namespace Piece

/-- Payloads that have their places in fragments of two texts have them in the texts, if these
are split at the same places. -/
theorem samePlace_fragments {pieces pieces' : List Piece}
    (h : pieces.map folded = pieces'.map folded)
    (hown : ∀ f ∈ fragments pieces, ∀ f' ∈ fragments pieces', f.folded = f'.folded →
      SamePlace f.whole f'.whole f.payload f'.payload) :
    List.Forall₂ (fun f f' => f.folded = f'.folded ∧
      SamePlace (joined pieces) (joined pieces') f.payload f'.payload)
      (fragments pieces) (fragments pieces') := by
  induction pieces generalizing pieces' with
  | nil =>
      obtain rfl := List.map_eq_nil_iff.mp h.symm
      exact .nil
  | cons piece pieces ih =>
      obtain ⟨piece', rest, rfl, hpiece, hrest⟩ := List.map_eq_cons_iff.mp h.symm
      cases piece with
      | char c =>
          cases piece' with
          | fragment f' => cases hpiece
          | char c' =>
              simp only [fragments_char, joined_char] at hown ⊢
              exact (ih hrest.symm hown).imp fun f f' hplace =>
                ⟨hplace.1, hplace.2.append_left (show [c].length = [c'].length from rfl)⟩
      | fragment f =>
          cases piece' with
          | char c' => cases hpiece
          | fragment f' =>
              have hf : f.folded = f'.folded := (fragment.inj hpiece).symm
              have hwhole : f.whole.length = f'.whole.length :=
                Recased.length_eq (congrArg Fragment.whole hf)
              simp only [fragments_fragment, joined_fragment] at hown ⊢
              refine .cons ⟨hf, ?_⟩ ?_
              · exact (hown f List.mem_cons_self f' List.mem_cons_self hf).append_right _ _
              · have hlater := ih hrest.symm fun g hg g' hg' =>
                  hown g (List.mem_cons_of_mem _ hg) g' (List.mem_cons_of_mem _ hg')
                exact hlater.imp fun g g' hplace => ⟨hplace.1, hplace.2.append_left hwhole⟩

end Piece

namespace StringModifier
open Recogniser

theorem dropOpener?_folded (t : Text) : dropOpener? (folded t) = (dropOpener? t).map folded := by
  unfold dropOpener?
  simp only [Option.bind_eq_bind, dropOpening?_folded]
  refine bind_map_eq fun rest => ?_
  rw [← folded_dropBlanks, dropChar?_folded _ (by decide)]

theorem beforeOpener_folded (t : Text) : beforeOpener (folded t) = folded (beforeOpener t) := by
  induction t with
  | nil => rfl
  | cons c cs ih =>
      rw [folded_cons, beforeOpener, beforeOpener, ← folded_cons, dropOpener?_folded,
        Option.isSome_map, ih]
      split_ifs
      · rfl
      · rfl

theorem atLastClosing?_folded (t : Text) :
    atLastClosing? (folded t) = (atLastClosing? t).map (Prod.map folded folded) := by
  induction t with
  | nil => rfl
  | cons c cs ih =>
      rw [folded_cons, atLastClosing?, atLastClosing?, ih]
      cases atLastClosing? cs with
      | some cut => rfl
      | none =>
          simp only [Option.map_none, toLower_eq_iff (show ']'.isAlpha = false by decide),
            dropClosing?_folded]
          split_ifs
          · cases dropClosing? cs with
            | none => rfl
            | some after => rfl
          · rfl

theorem caseless_recogniseAddition : Caseless recogniseAddition := by
  intro t
  unfold recogniseAddition
  simp only [Option.bind_eq_bind, dropOpener?_folded]
  refine bind_map_eq fun behind => ?_
  rw [← folded_dropBlanks, dropChar?_folded _ (by decide)]
  refine bind_map_eq fun rest => ?_
  rw [beforeOpener_folded, atLastClosing?_folded]
  refine bind_map_eq fun cut => ?_
  simp only [Prod.map_fst, Prod.map_snd, length_folded, ← folded_drop]
  exact congrArg some (Fragment.upTo_folded t _ _)

theorem IsAddition.samePlace {characters characters' w w' : Text} (h : IsAddition characters w)
    (h' : IsAddition characters' w') (hw : Recased w w') (hc : Recased characters characters') :
    SamePlace w w' characters characters' := by
  have hfront {opener gap : Text} (ho : IsOpener opener) (hgap : isBlankText gap) :
      '[' ∉ opener ++ gap := by
    obtain ⟨hlead, hs, hmiddle⟩ := ho
    rw [List.cons_append, List.mem_cons, not_or]
    refine ⟨by decide, ?_⟩
    simp only [List.append_assoc]
    refine hs.not_mem_append isName_include hlead (by decide) (by decide) ?_
    simp [not_mem_of_isBlankText hmiddle (show isBlank '[' = false by decide),
      not_mem_of_isBlankText hgap (show isBlank '[' = false by decide)]
  obtain ⟨ho, hgap, htrail⟩ := h
  obtain ⟨ho', hgap', htrail'⟩ := h'
  rename_i opener gap trail opener' gap' trail'
  rw [← List.append_assoc, ← List.append_assoc opener'] at hw
  have hlength := hw.length_front_eq (by decide) (hfront ho hgap) (hfront ho' hgap')
  refine ⟨opener ++ gap ++ ['['], ']' :: (trail ++ ['\x7d']), opener' ++ gap' ++ ['['],
    ']' :: (trail' ++ ['\x7d']), by simp, by simp, ?_, hc.length_eq⟩
  simp only [List.length_append, List.length_singleton] at hlength ⊢
  omega

/-- Values that are the same in any case, read from two texts: additions stand at the same place,
and their characters differ in case. -/
inductive SameValue (t t' : Text) : StringModifier → StringModifier → Prop
  | addition {characters characters' : Text} : SamePlace t t' characters characters' →
      Recased characters characters' →
      SameValue t t' (.addition characters) (.addition characters')
  | length (shortest longest : Nat) :
      SameValue t t' (.length shortest longest) (.length shortest longest)
  | select (chosen : CharClass) : SameValue t t' (.select chosen) (.select chosen)

theorem lengthParts?_folded (payload : Text) :
    lengthParts? (folded payload) = lengthParts? payload := by
  unfold lengthParts?
  simp only [← folded_strip, takeWhile_isDigit_folded, ← folded_dropWhile _ isDigit_toLower,
    ← folded_dropBlanks, isEmpty_folded, dropChar?_folded _ (show '-'.isAlpha = false by decide)]
  split_ifs
  · rfl
  · rfl
  · cases dropChar? '-' (dropBlanks ((strip payload).dropWhile Char.isDigit)) with
    | none => rfl
    | some rest =>
        simp only [Option.map_some, Option.bind_eq_bind, Option.bind_some, ← folded_dropBlanks,
          isNumeral_folded]
        split_ifs with hsecond
        · rw [folded_of_isDigit (isDigit_of_mem hsecond)]
        · rfl

variable {t t' : Text} {f f' : Fragment}

theorem alike_readAddition (h : f.folded = f'.folded)
    (hplace : SamePlace t t' f.payload f'.payload) :
    Alike (SameValue t t') Fault.SameKind (readAddition f) (readAddition f') := by
  have hpayload : Recased f.payload f'.payload := congrArg Fragment.payload h
  have hempty : f.payload.isEmpty = f'.payload.isEmpty := by
    rw [← isEmpty_folded, show folded f.payload = folded f'.payload from hpayload, isEmpty_folded]
  unfold readAddition
  rw [hempty]
  split_ifs
  · refine .error (.format ?_)
    simp only [FormatFault.folded, Fragment.shown_recased h]
  · exact .ok (.addition hplace hpayload)

theorem alike_readLength (h : f.folded = f'.folded) :
    Alike (SameValue t t') Fault.SameKind (readLength f) (readLength f') := by
  have hshown := Fragment.shown_recased h
  have hparts : lengthParts? f.payload = lengthParts? f'.payload := by
    rw [← lengthParts?_folded, show folded f.payload = folded f'.payload from
      congrArg Fragment.payload h, lengthParts?_folded]
  have hchecked (shortest longest : Nat) : Alike (SameValue t t') Fault.SameKind
      (if shortest < 1 then Except.error (Fault.format (.zeroLength f.shown))
      else if longest < shortest then .error (.format (.decreasingLength f.shown))
      else .ok (.length shortest longest))
      (if shortest < 1 then Except.error (Fault.format (.zeroLength f'.shown))
      else if longest < shortest then .error (.format (.decreasingLength f'.shown))
      else .ok (.length shortest longest)) := by
    split_ifs
    · exact .error (.format (congrArg FormatFault.zeroLength hshown))
    · exact .error (.format (congrArg FormatFault.decreasingLength hshown))
    · exact .ok (.length shortest longest)
  unfold readLength
  rw [hparts]
  match lengthParts? f'.payload with
  | none => exact .error (.format (congrArg FormatFault.badLength hshown))
  | some (first, none) =>
      refine (alike_liftNumeral _).bind fun n n' hn => ?_
      subst hn
      exact hchecked n n
  | some (first, some second) =>
      refine (alike_liftNumeral _).bind fun n n' hn => ?_
      subst hn
      refine (alike_liftNumeral _).bind fun m m' hm => ?_
      subst hm
      exact hchecked n m

theorem samePlace_additions (h : Recased t t') :
    List.Forall₂ (fun f f' => f.folded = f'.folded ∧ SamePlace t t' f.payload f'.payload)
      (Piece.fragments (Piece.split recogniseAddition t))
      (Piece.fragments (Piece.split recogniseAddition t')) := by
  have hsound : recogniseAddition.Sound := (accounts_of_mem List.mem_cons_self).sound
  have hplaces := Piece.samePlace_fragments
    (Piece.split_recased caseless_recogniseAddition h) fun f hf f' hf' hsame => ?_
  · rwa [Piece.joined_split hsound, Piece.joined_split hsound] at hplaces
  -- What was recognised is an addition, and its payload has its place behind the first bracket.
  · obtain ⟨front, hfront⟩ := Piece.exists_of_mem_fragments hf
    obtain ⟨front', hfront'⟩ := Piece.exists_of_mem_fragments hf'
    obtain ⟨w, characters, -, hw, -, -, -, rfl⟩ := recogniseAddition_eq_some_iff.mp hfront
    obtain ⟨w', characters', -, hw', -, -, -, rfl⟩ := recogniseAddition_eq_some_iff.mp hfront'
    exact hw.samePlace hw' (congrArg Fragment.whole hsame) (congrArg Fragment.payload hsame)

theorem alike_parse (h : Recased t t') :
    Alike (Parsed.SameModifiers (SameValue (strip t) (strip t'))) Fault.SameKind (parse t)
      (parse t') := by
  have hothers : ∀ rule ∈ Rule.assignment "length" readLength ::
      CharClass.all.map fun c => Rule.flag c.name (.select c),
      rule.Caseless (SameValue (strip t) (strip t')) := by
    rw [List.forall_mem_cons, List.forall_mem_map]
    exact ⟨⟨caseless_assignment _, alike_readLength⟩,
      fun c _ => ⟨caseless_flag _, fun _ => .ok (.select c)⟩⟩
  have hadditions : Alike (Rule.SamePass (SameValue (strip t) (strip t'))) Fault.SameKind
      (Rule.extract ⟨"include", none, recogniseAddition, readAddition⟩ .string (strip t) (strip t))
      (Rule.extract ⟨"include", none, recogniseAddition, readAddition⟩ .string (strip t')
        (strip t')) :=
    Rule.alike_extract caseless_recogniseAddition (fun f f' hf => alike_readAddition hf.1 hf.2)
      (samePlace_additions h.strip) h.strip h.strip
  exact Parsed.alike_parse h (Rule.alike_extractAll_cons hadditions fun next next' hnext =>
    Rule.alike_extractAll hothers h.strip hnext) []

end StringModifier

end FixtureKeywords
