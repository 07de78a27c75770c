import FixtureKeywords.Proofs.Keyword.Dispatch
import FixtureKeywords.Proofs.Strings.Recased

/-!
# The case of letters

Names may be written in any case. For two texts that differ in nothing else this is seen through
the whole reading: they are of one family, a string or integer keyword is accepted in both or in
neither, with the same modifiers, and what is refused is refused for the same reason. Bounds and
lengths have no letters, so they are the same; the characters of an addition are the letters as
they were written in the one text and in the other.

Zones and starts of datetime keywords are outside of this: what they say may depend on the case
of letters.
-/
namespace FixtureKeywords
open Text
open Outcome (Alike)

namespace IntegerModifier
variable {t t' : Text} {f f' : Fragment}

theorem rangeParts?_folded (payload : Text) :
    rangeParts? (folded payload) = rangeParts? payload := by
  have hstop := toLower_bne (show ':'.isAlpha = false by decide)
  unfold rangeParts?
  rw [← folded_dropWhile _ hstop, ← folded_takeWhile _ hstop, dropChar?_folded _ (by decide)]
  cases dropChar? ':' (payload.dropWhile (· != ':')) with
  | none => rfl
  | some rest =>
      simp only [Option.map_some, Option.bind_eq_bind, Option.bind_some, ← folded_strip,
        signed?_folded]

theorem alike_readRange (h : f.folded = f'.folded) :
    Alike Eq Fault.SameKind (readRange f) (readRange f') := by
  have hpayload : folded f.payload = folded f'.payload := congrArg Fragment.payload h
  unfold readRange
  rw [← rangeParts?_folded, hpayload, rangeParts?_folded]
  match rangeParts? f'.payload with
  | none =>
      exact .error (.format (congrArg FormatFault.badRange (Fragment.shown_recased h)))
  | some (low, high) =>
      refine (alike_liftNumeral _).bind fun n n' hn => ?_
      subst hn
      refine (alike_liftNumeral _).bind fun m m' hm => ?_
      subst hm
      exact .ok rfl

theorem alike_parse (h : Recased t t') :
    Alike (Parsed.SameModifiers Eq) Fault.SameKind (parse t) (parse t') := by
  have hrules : ∀ rule ∈ rules, rule.Caseless Eq := by
    have hflag (name : String) (value : IntegerModifier) : (Rule.flag name value).Caseless Eq :=
      ⟨Recogniser.caseless_flag _, fun _ => .ok rfl⟩
    unfold rules
    rw [List.forall_mem_cons, List.forall_mem_cons, List.forall_mem_singleton]
    exact ⟨⟨Recogniser.caseless_assignment _, alike_readRange⟩, hflag _ _, hflag _ _⟩
  exact Parsed.alike_parse h (Rule.alike_extractAll hrules h.strip h.strip) exclusive

end IntegerModifier

namespace Keyword
variable {s s' : String}

/-- String or integer keywords with the same modifiers, read from two texts. -/
inductive Same (t t' : Text) : Keyword → Keyword → Prop
  | string {parsed parsed' : Parsed StringModifier} :
      parsed.SameModifiers (StringModifier.SameValue t t') parsed' →
      Same t t' (.string parsed) (.string parsed')
  | integer {parsed parsed' : Parsed IntegerModifier} : parsed.SameModifiers Eq parsed' →
      Same t t' (.integer parsed) (.integer parsed')

theorem read_text [Almanac] (s : String) : read (.text s) =
    match Family.of? s.toList with
    | none => .error (.format (.unsupported s))
    | some .string => (StringModifier.parse s.toList).map string
    | some .integer => (IntegerModifier.parse s.toList).map integer
    | some .datetime => (TemporalModifier.parse s.toList).map datetime := by
  unfold read familyOf
  simp only [Datum.text, Datum.asText?, Option.bind_some]
  cases Family.of? s.toList with
  | none => rfl
  | some family => cases family <;> rfl

/-- Case makes no difference to the names of keywords and modifiers. Texts that differ in the case
of letters are of one family. As a string keyword, and as an integer keyword, both are read, with
the same modifiers, or both are refused for the same reason; and what becomes of them as keywords
of the family that they are of is the same for every family but that of datetimes, where neither
text is ever read as a keyword of another one. -/
theorem read_recased [Almanac] (h : Recased s.toList s'.toList) :
    Family.of? s.toList = Family.of? s'.toList ∧
    Alike (Parsed.SameModifiers (StringModifier.SameValue (strip s.toList) (strip s'.toList)))
      Fault.SameKind (StringModifier.parse s.toList) (StringModifier.parse s'.toList) ∧
    Alike (Parsed.SameModifiers Eq) Fault.SameKind (IntegerModifier.parse s.toList)
      (IntegerModifier.parse s'.toList) ∧
    (Family.of? s.toList ≠ some .datetime →
      Alike (Same (strip s.toList) (strip s'.toList)) Fault.SameKind (read (.text s))
        (read (.text s'))) ∧
    (Family.of? s.toList = some .datetime →
      ∀ k, read (.text s) = .ok k ∨ read (.text s') = .ok k → k.family = .datetime) := by
  have hfamily := Family.of?_recased h
  have hstring := StringModifier.alike_parse h
  have hinteger := IntegerModifier.alike_parse h
  refine ⟨hfamily, hstring, hinteger, fun hother => ?_, fun hdatetime k hk => ?_⟩
  · rw [read_text, read_text, ← hfamily]
    match hof : Family.of? s.toList with
    | none => exact .error (.format (congrArg (FormatFault.unsupported ∘ String.ofList) h))
    | some .string => exact hstring.map fun _ _ hmodifiers => .string hmodifiers
    | some .integer => exact hinteger.map fun _ _ hmodifiers => .integer hmodifiers
    | some .datetime => exact absurd hof hother
  · rw [read_text, read_text, ← hfamily, hdatetime] at hk
    rcases hk with hk | hk
    · obtain ⟨parsed, -, rfl⟩ := Outcome.map_eq_ok.mp hk
      rfl
    · obtain ⟨parsed, -, rfl⟩ := Outcome.map_eq_ok.mp hk
      rfl

/-- Every name in another case, and the characters of the addition with them. -/
theorem read_recased_payload :
    let s := "[ RandString\x7bLength=2-3\x7d\x7bINCLUDE=[aB]\x7d\x7bupperCASE\x7d]"
    let s' := "[ rANDSTRING\x7blENGTH=2-3\x7d\x7binclude=[Ab]\x7d\x7bUPPERcase\x7d]"
    let parsed (t characters : Text) : Parsed StringModifier :=
      ⟨.string, t, [("include", [.addition characters]), ("length", [.length 2 3]),
        ("uppercase", [.select .uppercase])]⟩
    Recased s.toList s'.toList ∧
      read (.text s) = .ok (.string (parsed s.toList ['a', 'B'])) ∧
      read (.text s') = .ok (.string (parsed s'.toList ['A', 'b'])) ∧
      Same s.toList s'.toList (.string (parsed s.toList ['a', 'B']))
        (.string (parsed s'.toList ['A', 'b'])) := by
  intro s s' parsed
  have hrecased : Recased s.toList s'.toList := by decide
  have hs : read (.text s) = .ok (.string (parsed s.toList ['a', 'B'])) := by decide
  have hs' : read (.text s') = .ok (.string (parsed s'.toList ['A', 'b'])) := by decide
  have hstrip : strip s.toList = s.toList := by decide
  have hstrip' : strip s'.toList = s'.toList := by decide
  obtain ⟨-, -, -, hread, -⟩ := read_recased hrecased
  have halike := hread (by decide)
  rw [hs, hs', hstrip, hstrip'] at halike
  cases halike with
  | ok hsame => exact ⟨hrecased, hs, hs', hsame⟩

end Keyword

end FixtureKeywords
