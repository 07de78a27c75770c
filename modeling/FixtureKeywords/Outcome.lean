/-!
# Outcomes of single steps

A chain of steps succeeds exactly if each step does, with the value of the one
before it.
-/
namespace FixtureKeywords.Outcome
variable {ε α β : Type}

theorem bind_eq_ok {x : Except ε α} {f : α → Except ε β} {b : β} :
    x >>= f = .ok b ↔ ∃ a, x = .ok a ∧ f a = .ok b := by
  cases x <;> simp [bind, Except.bind]

theorem map_eq_ok {x : Except ε α} {f : α → β} {b : β} :
    x.map f = .ok b ↔ ∃ a, x = .ok a ∧ f a = b := by
  cases x <;> simp [Except.map]

@[simp]
theorem mapError_ok {γ : Type} (a : α) (f : ε → γ) : (Except.ok a).mapError f = .ok a :=
  rfl

@[simp]
theorem mapError_error {γ : Type} (e : ε) (f : ε → γ) :
    (Except.error e : Except ε α).mapError f = .error (f e) :=
  rfl

theorem mapError_eq_ok {γ : Type} {x : Except ε α} {f : ε → γ} {a : α} :
    x.mapError f = .ok a ↔ x = .ok a := by
  cases x <;> simp

end FixtureKeywords.Outcome
