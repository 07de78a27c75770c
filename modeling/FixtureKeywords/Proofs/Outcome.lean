import FixtureKeywords.Outcome
import Mathlib.Data.List.Basic
import Mathlib.Data.List.Forall2

/-!
# Outcomes of steps that may fail

A list of values is read as a whole or not at all.
-/
namespace FixtureKeywords.Outcome
variable {ε α β : Type}

theorem forall₂_of_mapM_eq_ok {f : α → Except ε β} {xs : List α} {ys : List β}
    (h : xs.mapM f = .ok ys) : List.Forall₂ (fun x y => f x = .ok y) xs ys := by
  induction xs generalizing ys with
  | nil =>
      obtain rfl : [] = ys := Except.ok.inj h
      exact .nil
  | cons x xs ih =>
      rw [List.mapM_cons] at h
      obtain ⟨y, hy, h⟩ := bind_eq_ok.mp h
      obtain ⟨rest, hrest, h⟩ := bind_eq_ok.mp h
      obtain rfl : y :: rest = ys := Except.ok.inj h
      exact .cons hy (ih hrest)

theorem exists_of_mem_mapM {f : α → Except ε β} {xs : List α} {ys : List β}
    (h : xs.mapM f = .ok ys) {y : β} (hy : y ∈ ys) : ∃ x ∈ xs, f x = .ok y := by
  have hread := forall₂_of_mapM_eq_ok h
  clear h
  induction hread with
  | nil => simp at hy
  | @cons x z xs zs hx _ ih =>
      rcases List.mem_cons.mp hy with rfl | hy
      · exact ⟨x, List.mem_cons_self, hx⟩
      · obtain ⟨w, hw, hread⟩ := ih hy
        exact ⟨w, List.mem_cons_of_mem _ hw, hread⟩

theorem exists_of_mapM_eq_ok {f : α → Except ε β} {xs : List α} {ys : List β}
    (h : xs.mapM f = .ok ys) {x : α} (hx : x ∈ xs) : ∃ y, f x = .ok y := by
  have hread := forall₂_of_mapM_eq_ok h
  clear h
  induction hread with
  | nil => simp at hx
  | @cons z y zs ys hz _ ih =>
      rcases List.mem_cons.mp hx with rfl | hx
      · exact ⟨y, hz⟩
      · exact ih hx

theorem length_of_mapM_eq_ok {f : α → Except ε β} {xs : List α} {ys : List β}
    (h : xs.mapM f = .ok ys) : xs.length = ys.length :=
  (forall₂_of_mapM_eq_ok h).length_eq

theorem mapM_cons (f : α → Except ε β) (x : α) (xs : List α) :
    (x :: xs).mapM f = f x >>= fun y => (xs.mapM f).map (y :: ·) := by
  rw [List.mapM_cons]
  cases f x with
  | error e => rfl
  | ok y =>
      cases hxs : xs.mapM f with
      | error e => simp [bind, Except.bind, Except.map]
      | ok ys => rfl

/-- Reading what was wrapped, where the reader of the wrapped reads and wraps. -/
theorem mapM_map {γ δ : Type} {f : α → Except ε β} {g : γ → Except ε δ} {h : α → γ} {k : β → δ}
    (hg : ∀ x, g (h x) = (f x).map k) (xs : List α) :
    (xs.map h).mapM g = (xs.mapM f).map (List.map k) := by
  induction xs with
  | nil => rfl
  | cons x xs ih =>
      rw [List.map_cons, mapM_cons, mapM_cons, hg, ih]
      cases f x with
      | error e => rfl
      | ok y =>
          cases xs.mapM f with
          | error e => rfl
          | ok ys => rfl

theorem mapM_of_forall_ok {f : α → Except ε β} {g : α → β} {xs : List α}
    (h : ∀ x ∈ xs, f x = .ok (g x)) : xs.mapM f = .ok (xs.map g) := by
  induction xs with
  | nil => rfl
  | cons x xs ih =>
      rw [mapM_cons, h x List.mem_cons_self, ih fun y hy => h y (List.mem_cons_of_mem _ hy)]
      rfl

theorem exists_mapM_eq_some {f : α → Option β} {xs : List α} (h : ∀ x ∈ xs, ∃ y, f x = some y) :
    ∃ ys, xs.mapM f = some ys := by
  induction xs with
  | nil => exact ⟨[], rfl⟩
  | cons x xs ih =>
      obtain ⟨y, hy⟩ := h x List.mem_cons_self
      obtain ⟨ys, hys⟩ := ih fun z hz => h z (List.mem_cons_of_mem _ hz)
      refine ⟨y :: ys, ?_⟩
      rw [List.mapM_cons, hy, hys]
      rfl

theorem exists_of_mapM_eq_some {f : α → Option β} {xs : List α} {ys : List β}
    (h : xs.mapM f = some ys) {x : α} (hx : x ∈ xs) : ∃ y, f x = some y := by
  induction xs generalizing ys with
  | nil => simp at hx
  | cons z zs ih =>
      rw [List.mapM_cons] at h
      obtain ⟨y, hy, h⟩ := Option.bind_eq_some_iff.mp h
      obtain ⟨rest, hrest, -⟩ := Option.bind_eq_some_iff.mp h
      rcases List.mem_cons.mp hx with rfl | hx
      · exact ⟨y, hy⟩
      · exact ih hrest hx

/-- What a chain of steps may come to: its value has the one property, its error the other. -/
def Meets (Q : α → Prop) (P : ε → Prop) : Except ε α → Prop
  | .ok a => Q a
  | .error e => P e

namespace Meets
variable {Q : α → Prop} {R : β → Prop} {P : ε → Prop} {x : Except ε α}

instance [DecidablePred Q] [DecidablePred P] : Decidable (Meets Q P x) :=
  match x with
  | .ok a => inferInstanceAs (Decidable (Q a))
  | .error e => inferInstanceAs (Decidable (P e))

theorem of_eq_ok (hx : Meets Q P x) {a : α} (h : x = .ok a) : Q a := by
  rwa [h] at hx

theorem of_eq_error (hx : Meets Q P x) {e : ε} (h : x = .error e) : P e := by
  rwa [h] at hx

theorem mono {Q' : α → Prop} {P' : ε → Prop} (hx : Meets Q P x) (hQ : ∀ a, Q a → Q' a)
    (hP : ∀ e, P e → P' e) : Meets Q' P' x := by
  cases x with
  | error e => exact hP e hx
  | ok a => exact hQ a hx

theorem bind (hx : Meets Q P x) {f : α → Except ε β} (hf : ∀ a, Q a → Meets R P (f a)) :
    Meets R P (x >>= f) := by
  cases x with
  | error e => exact hx
  | ok a => exact hf a hx

theorem map (hx : Meets Q P x) {f : α → β} (hf : ∀ a, Q a → R (f a)) : Meets R P (x.map f) := by
  cases x with
  | error e => exact hx
  | ok a => exact hf a hx

end Meets

end FixtureKeywords.Outcome
