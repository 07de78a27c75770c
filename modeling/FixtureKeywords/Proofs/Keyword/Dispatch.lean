import FixtureKeywords.Proofs.Generation
import FixtureKeywords.Proofs.Temporal.Start
import FixtureKeywords.Proofs.Text.Letters

/-!
# The family of a text

A family encloses a text by its shape alone: a bracket, blanks, the name of the family in any
case, anything, and a last bracket. No name of a family begins another one, so a text has at most
one family, and in which order the families are tried makes no difference.

The family is looked for before a keyword is read or generated, and what it is read by then asks
for the envelope once more. That second question is never answered by no, so the fault that
belongs to it stays inside the reading of a text by a family that was not looked for.
-/
namespace FixtureKeywords
open Text

namespace Family
variable {family : Family} {t : Text}

theorem encloses_iff : family.encloses t ↔
    ∃ lead s inner, isBlankText lead ∧ InAnyCase family.name.toList s ∧
      strip t = '[' :: (lead ++ (s ++ (inner ++ [']']))) := by
  constructor
  · intro h
    obtain ⟨lead, s, inner, hlead, hs, ht⟩ := exists_of_encloses h
    refine ⟨lead, s, inner, hlead, (inAnyCase_iff_reads family.isName_name).mpr hs, ?_⟩
    rw [ht]
    simp only [List.append_assoc]
  · rintro ⟨lead, s, inner, hlead, hs, ht⟩
    obtain ⟨before, after, hbefore, hafter, heq⟩ := exists_strip t
    have hshape : strip t = '[' :: ((lead ++ (s ++ inner)) ++ [']']) := by
      rw [ht]
      simp only [List.append_assoc]
    rw [heq, hshape]
    exact encloses_keyword hbefore hlead ((inAnyCase_iff_reads family.isName_name).mp hs) hafter

/-- Whatever the order in which families are tried, the one that encloses a text is found. -/
theorem find?_eq_some_iff {order : List Family} (horder : ∀ f, f ∈ order) :
    order.find? (·.encloses t) = some family ↔ family.encloses t := by
  constructor
  · intro h
    simpa using List.find?_some h
  · intro h
    cases hfound : order.find? (·.encloses t) with
    | none => exact absurd h (List.find?_eq_none.mp hfound family (horder family))
    | some other =>
        have hother : other.encloses t := by simpa using List.find?_some hfound
        rw [eq_of_encloses h hother]

end Family

/-- An outcome is no complaint that a family does not enclose a text. -/
def Matched {α : Type} (outcome : Except Fault α) : Prop :=
  ∀ text family, outcome ≠ .error (.format (.notEnclosed text family))

namespace Matched
variable {α β : Type} {x : Except Fault α}

theorem ok (a : α) : Matched (.ok a) := nofun

theorem of_wellFormed (h : WellFormed x) : Matched x :=
  fun text family => h (.notEnclosed text family)

theorem bind {f : α → Except Fault β} (hx : Matched x) (hf : ∀ a, Matched (f a)) :
    Matched (x >>= f) := by
  cases x with
  | error fault =>
      intro text family h
      exact hx text family (congrArg Except.error (Except.error.inj h))
  | ok a => exact hf a

theorem map (hx : Matched x) (f : α → β) : Matched (x.map f) := by
  cases x with
  | error fault =>
      intro text family h
      exact hx text family (congrArg Except.error (Except.error.inj h))
  | ok a => exact ok (f a)

theorem mapM {f : β → Except Fault α} (hf : ∀ b, Matched (f b)) (bs : List β) :
    Matched (bs.mapM f) := by
  induction bs with
  | nil => exact ok []
  | cons b bs ih =>
      rw [Outcome.mapM_cons]
      exact (hf b).bind fun _ => ih.map _

theorem liftNumeral (r : Except Text.TooLong α) : Matched (Fault.liftNumeral r) := by
  cases r <;> rintro text family ⟨⟩

end Matched

namespace Rule
variable {α : Type} {family : Family} {keyword : Text}

theorem matched_extractAll {rules : List (Rule α)}
    (hread : ∀ rule ∈ rules, ∀ f, Matched (rule.read f)) (reduced : Text) :
    Matched (extractAll family keyword rules reduced) := by
  induction rules generalizing reduced with
  | nil => exact .ok _
  | cons rule rules ih =>
      have hfirst : Matched (rule.extract family keyword reduced) := by
        unfold extract
        dsimp only
        split_ifs
        · rintro text family ⟨⟩
        · exact (Matched.mapM (hread rule List.mem_cons_self) _).bind fun _ => .ok _
      refine hfirst.bind fun found => ?_
      exact (ih (fun r hr => hread r (List.mem_cons_of_mem _ hr)) found.2).bind fun _ => .ok _

end Rule

namespace Parsed
variable {α : Type}

theorem matched_checkExclusive (p : Parsed α) (groups : List (List String)) :
    Matched (p.checkExclusive groups) := by
  induction groups with
  | nil => exact .ok ()
  | cons group groups ih =>
      unfold checkExclusive
      dsimp only
      split_ifs
      · rintro text family ⟨⟩
      · exact ih

/-- The one place where the complaint arises is not reached by a text of the family. -/
theorem matched_parse {t : Text} {family : Family} (h : family.encloses t)
    {rules : List (Rule α)} (hread : ∀ rule ∈ rules, ∀ f, Matched (rule.read f))
    (exclusive : List (List String)) : Matched (parse t family rules exclusive) := by
  unfold parse
  rw [if_pos h]
  refine (Rule.matched_extractAll hread _).bind fun found => ?_
  refine (matched_checkExclusive _ exclusive).bind fun _ => ?_
  split_ifs
  · exact .ok _
  · rintro text family ⟨⟩

end Parsed

theorem StringModifier.matched_readLength (f : Fragment) : Matched (readLength f) := by
  have hchecked (shortest longest : Nat) : Matched
      (if shortest < 1 then Except.error (Fault.format (.zeroLength f.shown))
      else if longest < shortest then .error (.format (.decreasingLength f.shown))
      else .ok (StringModifier.length shortest longest)) := by
    split_ifs
    · rintro text family ⟨⟩
    · rintro text family ⟨⟩
    · exact .ok _
  unfold readLength
  match lengthParts? f.payload with
  | none => rintro text family ⟨⟩
  | some (first, none) => exact (Matched.liftNumeral _).bind fun n => hchecked n n
  | some (first, some second) =>
      refine (Matched.liftNumeral _).bind fun n => ?_
      exact (Matched.liftNumeral _).bind fun m => hchecked n m

theorem StringModifier.matched_parse {t : Text} (h : Family.string.encloses t) :
    Matched (parse t) := by
  refine Parsed.matched_parse h (fun rule hrule f => ?_) _
  simp only [rules, List.mem_append, List.mem_cons, List.mem_map, List.not_mem_nil,
    or_false] at hrule
  rcases hrule with (rfl | rfl) | ⟨chosen, -, rfl⟩
  · change Matched (readAddition f)
    unfold readAddition
    split_ifs
    · rintro text family ⟨⟩
    · exact .ok _
  · exact matched_readLength f
  · exact .ok _

theorem IntegerModifier.matched_parse {t : Text} (h : Family.integer.encloses t) :
    Matched (parse t) := by
  refine Parsed.matched_parse h (fun rule hrule f => ?_) _
  simp only [rules, List.mem_cons, List.not_mem_nil, or_false] at hrule
  rcases hrule with rfl | rfl | rfl
  · change Matched (readRange f)
    unfold readRange
    split
    · rintro text family ⟨⟩
    · refine (Matched.liftNumeral _).bind fun low => ?_
      exact (Matched.liftNumeral _).bind fun high => .ok _
  · exact .ok _
  · exact .ok _

theorem TemporalModifier.matched_parse [Almanac] {t : Text} (h : Family.datetime.encloses t) :
    Matched (parse t) := by
  refine Parsed.matched_parse h (fun rule hrule f => ?_) _
  simp only [rules, List.mem_cons, List.not_mem_nil, or_false] at hrule
  rcases hrule with rfl | rfl | rfl | rfl
  · refine Matched.map ?_ _
    intro text family hfault
    rcases Moment.fault_of_ofStart hfault with ⟨_, hcause⟩ | ⟨_, hcause, -⟩ | ⟨hcause, -⟩ <;>
      cases hcause
  · refine Matched.map ?_ _
    intro text family hfault
    rcases Zone.fault_of_ofId hfault with ⟨_, hcause⟩ | ⟨_, hcause, -⟩ <;> cases hcause
  · change Matched (readOffset f)
    unfold readOffset
    split
    · refine Matched.map ?_ _
      unfold readInteger
      dsimp only
      split
      · exact .liftNumeral _
      · rintro text family ⟨⟩
    · rintro text family ⟨⟩
  · exact .ok _

theorem StringGenerator.wellFormed_ofParsed (parsed : Parsed StringModifier)
    (defaultLength : Int) : WellFormed (ofParsed parsed defaultLength) := by
  have hfix (n : Int) (g : StringGenerator) : WellFormed (g.fixLength n) := by
    unfold fixLength
    split
    · exact .raised _
    · split_ifs
      · exact .raised _
      · exact .ok _
  have hdraw (n m : Int) (g : StringGenerator) : WellFormed (g.drawLength n m) := by
    unfold drawLength
    split
    · exact .raised _
    · split_ifs
      · exact .raised _
      · exact .raised _
      · exact .ok _
  have hstart : WellFormed (start defaultLength) := by
    unfold start
    split_ifs
    · exact .raised _
    · exact .ok _
  refine hstart.bind fun g => ?_
  dsimp only
  split
  · exact .ok _
  · split_ifs
    · exact (hfix _ _).map _
    · exact hdraw _ _ _

namespace Keyword

theorem encloses_of_familyOf {cell : Datum} {family : Family} {t : Text}
    (h : familyOf cell = .ok (family, t)) : family.encloses t := by
  unfold familyOf at h
  split at h
  next found hfound =>
    obtain rfl := Except.ok.inj h
    obtain ⟨s, -, hs⟩ := Option.bind_eq_some_iff.mp hfound
    obtain ⟨f, hf, hpair⟩ := Option.map_eq_some_iff.mp hs
    obtain ⟨rfl, rfl⟩ := Prod.mk.inj hpair
    exact Family.of?_eq_some_iff.mp hf
  next => cases h

theorem matched_bind_familyOf {α : Type} {cell : Datum} {f : Family × Text → Except Fault α}
    (hf : ∀ family t, family.encloses t → Matched (f (family, t))) :
    Matched (familyOf cell >>= f) := by
  cases hfamily : familyOf cell with
  | error fault =>
      unfold familyOf at hfamily
      split at hfamily
      · cases hfamily
      · obtain rfl := Except.error.inj hfamily
        rintro text family
        split_ifs <;> nofun
  | ok found => exact hf found.1 found.2 (encloses_of_familyOf hfamily)

section
variable [Almanac]

theorem matched_read (cell : Datum) : Matched (read cell) := by
  refine matched_bind_familyOf fun family t h => ?_
  cases family with
  | string => exact (StringModifier.matched_parse h).map _
  | integer => exact (IntegerModifier.matched_parse h).map _
  | datetime => exact (TemporalModifier.matched_parse h).map _

theorem matched_generate (cell : Datum) (defaults : Defaults) (around : Surroundings) :
    Matched (Value.generate cell defaults around) := by
  refine matched_bind_familyOf fun family t h => ?_
  cases family with
  | string =>
      have hgenerator : Matched (StringGenerator.ofKeyword t defaults.length) :=
        (StringModifier.matched_parse h).bind fun parsed =>
          .of_wellFormed (StringGenerator.wellFormed_ofParsed parsed _)
      exact (hgenerator.map _).map _
  | integer =>
      have hdrawn : Matched (IntegerModifier.generate t) := by
        refine (IntegerModifier.matched_parse h).bind fun parsed => Matched.map ?_ _
        have hcases := Sample.within_cases (IntegerModifier.request parsed).parity
          (IntegerModifier.request parsed).low (IntegerModifier.request parsed).high
        rcases hcases with ⟨program, -, -, -, hprogram, -⟩ | ⟨fault, hfault⟩
        · rw [hprogram]
          exact .ok _
        · obtain ⟨cause, rfl, -⟩ := Sample.exists_raised hfault
          rw [hfault]
          exact .of_wellFormed (.raised cause)
      exact hdrawn.map _
  | datetime =>
      have hresolved : Matched (TemporalModifier.generate t defaults.policy around) := by
        refine (TemporalModifier.matched_parse h).bind fun parsed => .of_wellFormed ?_
        have hrequest : WellFormed (TemporalModifier.request parsed) :=
          TemporalSpec.wellFormed_addAll _ _
        exact hrequest.bind fun spec => spec.wellFormed_resolve _ _
      exact hresolved.map _

/-- A family encloses a text by its shape, and at most one does. So the family of a text is the
one that encloses it, in whatever order the families are tried, and neither reading nor
generating a keyword comes to a family that does not enclose it. -/
theorem family_decides :
    (∀ (family : Family) (t : Text), family.encloses t ↔
      ∃ lead s inner, isBlankText lead ∧ InAnyCase family.name.toList s ∧
        strip t = '[' :: (lead ++ (s ++ (inner ++ [']'])))) ∧
    (∀ t : Text,
      (∀ family other : Family, family.encloses t → other.encloses t → family = other) ∧
      (∀ family, Family.of? t = some family ↔ family.encloses t) ∧
      ∀ order : List Family, (∀ family, family ∈ order) →
        ∀ family, order.find? (·.encloses t) = some family ↔ family.encloses t) ∧
    ∀ (cell : Datum) (text : String) (family : Family),
      Keyword.read cell ≠ .error (.format (.notEnclosed text family)) ∧
      ∀ (defaults : Defaults) (around : Surroundings),
        Value.generate cell defaults around ≠ .error (.format (.notEnclosed text family)) := by
  refine ⟨fun family t => Family.encloses_iff, fun t => ⟨?_, ?_, ?_⟩, fun cell text family => ?_⟩
  · exact fun family other h hother => Family.eq_of_encloses h hother
  · exact fun family => Family.of?_eq_some_iff
  · exact fun order horder family => Family.find?_eq_some_iff horder
  · exact ⟨matched_read cell text family,
      fun defaults around => matched_generate cell defaults around text family⟩

end

/-- Blanks of many kinds, letters outside ASCII and brackets inside; the right family is tried
last. -/
theorem family_decides_odd_letters :
    let t := "\u2003[\n RAND\u017fTR\u0130NG]\nx[ ]\u0085".toList
    let order := [Family.datetime, .integer, .string]
    (∀ family, family ∈ order) ∧ Family.string.encloses t ∧
      order.find? (·.encloses t) = some .string ∧ Family.of? t = some .string ∧
      ¬ Family.integer.encloses t := by
  intro t order
  obtain ⟨hshape, hdecides, -⟩ := family_decides
  obtain ⟨hunique, hof, hfind⟩ := hdecides t
  have horder : ∀ family, family ∈ order := by
    intro family
    cases family <;> decide
  have hstring : Family.string.encloses t := (hshape .string t).mpr
    ⟨['\n', ' '], "RAND\u017fTR\u0130NG".toList, "]\nx[ ".toList, rfl, by decide, by decide⟩
  refine ⟨horder, hstring, (hfind order horder .string).mpr hstring, (hof .string).mpr hstring, ?_⟩
  intro hinteger
  cases hunique .string .integer hstring hinteger

end Keyword

end FixtureKeywords
