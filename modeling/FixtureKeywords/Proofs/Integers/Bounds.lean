import FixtureKeywords.Proofs.Integers.Written
import FixtureKeywords.Proofs.Keyword.Parsing

/-!
# The bounds of integer keywords

The bounds of a keyword are numerals that can be read, or the usual ones. A numeral that can
be read has no more digits than an integer may have that is written. So a fault that names
the bounds of a keyword is always told.
-/
namespace FixtureKeywords

/-- What is refused between two bounds is refused in words that name the bounds. -/
theorem Sample.exists_raised {wanted : Option Parity} {low high : Int} {fault : Fault}
    (h : within wanted low high = .error fault) :
    ∃ cause : ArgumentFault, fault = cause.raised ∧ cause.integers = [low, high] := by
  cases wanted with
  | none =>
      unfold within between at h
      dsimp only at h
      split_ifs at h
      exact ⟨.notIncreasing low high, (Except.error.inj h).symm, rfl⟩
  | some wanted =>
      unfold within ofParity at h
      dsimp only at h
      split_ifs at h
      · exact ⟨.decreasing low high, (Except.error.inj h).symm, rfl⟩
      · exact ⟨.noneOfParity low high wanted, (Except.error.inj h).symm, rfl⟩

namespace IntegerModifier
open Text (isWritable isWritable_iff)
variable {t : Text}

theorem isWritable_of_read {numeral : Text.Signed} {n : Int}
    (h : Text.isNumeral numeral.digits) (hread : Fault.liftNumeral numeral.read = .ok n) :
    isWritable n :=
  isWritable_iff.mpr (Text.Signed.natAbs_lt h (Outcome.mapError_eq_ok.mp hread))

theorem isWritable_of_readRange {f : Fragment} {low high : Int}
    (h : readRange f = .ok (.range low high)) : isWritable low ∧ isWritable high := by
  unfold readRange at h
  cases hparts : rangeParts? f.payload with
  | none =>
      rw [hparts] at h
      cases h
  | some parts =>
      obtain ⟨first, second⟩ := parts
      rw [hparts] at h
      obtain ⟨l, hl, h⟩ := Outcome.bind_eq_ok.mp h
      obtain ⟨u, hu, h⟩ := Outcome.bind_eq_ok.mp h
      obtain ⟨rfl, rfl⟩ := IntegerModifier.range.inj (Except.ok.inj h)
      simp only [rangeParts?, Option.bind_eq_bind, Option.bind_eq_some_iff] at hparts
      obtain ⟨rest, -, l', hl', u', hu', hparts⟩ := hparts
      obtain ⟨rfl, rfl⟩ := Prod.mk.inj (Option.some.inj hparts)
      exact ⟨isWritable_of_read (Text.isNumeral_of_signed? hl') hl,
        isWritable_of_read (Text.isNumeral_of_signed? hu') hu⟩

theorem isWritable_of_parse {parsed : Parsed IntegerModifier} (h : parse t = .ok parsed) :
    isWritable (request parsed).low ∧ isWritable (request parsed).high := by
  unfold request
  cases hbounds : parsed.flat.findSome? bounds? with
  | none => exact ⟨(by decide : isWritable Sample.least), (by decide : isWritable Sample.greatest)⟩
  | some bounds =>
      obtain ⟨low, high⟩ := bounds
      obtain ⟨v, hv, hvalue⟩ := List.exists_of_findSome?_eq_some hbounds
      obtain rfl : v = .range low high := by
        cases v with
        | range l u =>
            obtain ⟨rfl, rfl⟩ := Prod.mk.inj (Option.some.inj hvalue)
            rfl
        | parity _ => cases hvalue
      obtain ⟨rule, hrule, f, hread⟩ := Parsed.exists_read_of_mem_flat h hv
      rcases mem_rules_iff.mp hrule with rfl | ⟨wanted, rfl⟩
      · exact isWritable_of_readRange hread
      · cases hread

theorem exists_argument_of_parse {parsed : Parsed IntegerModifier} (h : parse t = .ok parsed)
    {fault : Fault} (hfault : Sample.within (request parsed).parity (request parsed).low
      (request parsed).high = .error fault) : ∃ cause, fault = .argument cause := by
  obtain ⟨cause, rfl, hintegers⟩ := Sample.exists_raised hfault
  obtain ⟨hlow, hhigh⟩ := isWritable_of_parse h
  rw [isWritable_iff] at hlow hhigh
  exact ⟨cause, ArgumentFault.raised_of_isShort (by
    simp [ArgumentFault.IsShort, hintegers, hlow, hhigh])⟩

end IntegerModifier

end FixtureKeywords
