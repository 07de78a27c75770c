import FixtureKeywords.Proofs.Integers.Parity

/-!
# How large a drawn integer is

The bounds of a keyword are numerals that can be read, or the usual ones, and what is drawn
lies between them. So the answer of a source decides which integer is drawn, and never
whether it can be written: it has no more digits than the longer one of its bounds.
-/
namespace FixtureKeywords

namespace DrawProgram
variable {α β : Type} {program : DrawProgram α} {low high : Int}

theorem Yields.map {P : β → Prop} {f : α → β} (h : program.Yields fun a => P (f a)) :
    (program.map f).Yields P := by
  intro σ source state
  rw [run_map]
  exact h σ source state

theorem Yields.mono {P Q : α → Prop} (h : program.Yields P) (hPQ : ∀ a, P a → Q a) :
    program.Yields Q :=
  fun σ source state => hPQ _ (h σ source state)

theorem yields_between (ordered : low ≤ high) :
    (between low high ordered).Yields fun n => low ≤ n ∧ n ≤ high :=
  fun _ source state => ((drawsOneOf_between ordered).run source state).1

end DrawProgram

theorem Sample.yields_within {wanted : Option Parity} {low high : Int} {program : DrawProgram Int}
    (h : within wanted low high = .ok program) : program.Yields fun n => low ≤ n ∧ n ≤ high := by
  cases wanted with
  | none =>
      unfold within between at h
      dsimp only at h
      split_ifs at h
      obtain rfl := Except.ok.inj h
      exact DrawProgram.yields_between _
  | some wanted =>
      change ofParity wanted low high = .ok program at h
      by_cases hnone : candidates wanted low high = ∅
      · cases (ofParity_of_empty wanted low high hnone).symm.trans h
      · obtain ⟨ordered, hprogram⟩ := ofParity_of_nonempty wanted low high hnone
        obtain rfl := Except.ok.inj (hprogram.symm.trans h)
        refine DrawProgram.Yields.map ((DrawProgram.yields_between ordered).mono fun k hk => ?_)
        have hstepped : stepped wanted low k ∈ candidates wanted low high := by
          rw [candidates_eq_image]
          exact Set.mem_image_of_mem _ hk
        exact hstepped.1

namespace IntegerModifier
open Text (isWritable isWritable_iff)
variable {t : Text}

theorem isWritable_of_between {low high n : Int} (hlow : isWritable low) (hhigh : isWritable high)
    (h : low ≤ n ∧ n ≤ high) : isWritable n := by
  rw [isWritable_iff] at *
  omega

theorem yields_generate {program : DrawProgram (Logged Int)} (h : generate t = .ok program) :
    program.Yields fun out => isWritable out.value := by
  obtain ⟨parsed, hparse, h⟩ := Outcome.bind_eq_ok.mp h
  obtain ⟨sample, hsample, rfl⟩ := Outcome.map_eq_ok.mp h
  obtain ⟨hlow, hhigh⟩ := isWritable_of_parse hparse
  refine DrawProgram.Yields.map ?_
  exact (Sample.yields_within hsample).mono fun n hn => isWritable_of_between hlow hhigh hn

end IntegerModifier

end FixtureKeywords
