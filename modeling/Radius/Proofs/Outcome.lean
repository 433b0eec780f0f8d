/-
# Outcomes

Reading and writing end in a result or in an error.  The lemmas of this file take a computation that
ended in a result apart: what its first part gave, and what the rest made of it.  Work on a state is
taken apart in the same way, where it is done for one thing after the other (`run_mapM_cons`).
-/
import Mathlib.Tactic.Lemma

namespace Radius.Outcome

variable {ε ε' α β σ : Type}

/-- A sequence of two computations gives a result when the first does and the second, started
from it, does. -/
lemma bind_eq_ok_iff {x : Except ε α} {f : α → Except ε β} {b : β} :
    (x >>= f) = .ok b ↔ ∃ a, x = .ok a ∧ f a = .ok b := by
  cases x with
  | error e =>
      constructor
      · intro h
        exact absurd (show Except.error e = Except.ok b from h) (by simp)
      · rintro ⟨a, ha, -⟩
        exact absurd ha (by simp)
  | ok a =>
      constructor
      · intro h
        exact ⟨a, rfl, h⟩
      · rintro ⟨a', ha, h⟩
        rw [Except.ok.injEq] at ha
        subst ha
        exact h

/-- A sequence of two computations fails where the first does, or where the second, started from the
result of the first, does. -/
lemma bind_eq_error_iff {x : Except ε α} {f : α → Except ε β} {e : ε} :
    (x >>= f) = .error e ↔ x = .error e ∨ ∃ a, x = .ok a ∧ f a = .error e := by
  cases x with
  | error e' =>
      constructor
      · intro h
        exact Or.inl (congrArg Except.error
          (Except.error.inj (show (Except.error e' : Except ε β) = .error e from h)))
      · rintro (h | ⟨a, ha, -⟩)
        · rw [Except.error.inj h]
          rfl
        · exact absurd ha (by simp)
  | ok a =>
      constructor
      · intro h
        exact Or.inr ⟨a, rfl, h⟩
      · rintro (h | ⟨a', ha, h⟩)
        · exact absurd h (by simp)
        · rw [Except.ok.injEq] at ha
          subst ha
          exact h

lemma map_eq_ok_iff {x : Except ε α} {f : α → β} {b : β} :
    (f <$> x) = .ok b ↔ ∃ a, x = .ok a ∧ f a = b := by
  cases x with
  | error e =>
      constructor
      · intro h
        exact absurd (show Except.error e = Except.ok b from h) (by simp)
      · rintro ⟨a, ha, -⟩
        exact absurd ha (by simp)
  | ok a =>
      constructor
      · intro h
        exact ⟨a, rfl, Except.ok.inj h⟩
      · rintro ⟨a', ha, rfl⟩
        rw [Except.ok.injEq] at ha
        subst ha
        rfl

lemma map_eq_error_iff {x : Except ε α} {f : α → β} {e : ε} :
    (f <$> x) = .error e ↔ x = .error e := by
  cases x with
  | error e' =>
      constructor
      · intro h
        exact congrArg Except.error
          (Except.error.inj (show (Except.error e' : Except ε β) = .error e from h))
      · intro h
        rw [Except.error.inj h]
        rfl
  | ok a =>
      constructor
      · intro h
        exact absurd (show Except.ok (f a) = Except.error e from h) (by simp)
      · intro h
        exact absurd h (by simp)

lemma mapError_eq_ok_iff {x : Except ε α} {f : ε → ε'} {a : α} :
    x.mapError f = .ok a ↔ x = .ok a := by
  cases x with
  | error e =>
      constructor
      · intro h
        exact absurd (show Except.error (f e) = Except.ok a from h) (by simp)
      · intro h
        exact absurd h (by simp)
  | ok b => exact ⟨fun h => congrArg Except.ok (Except.ok.inj h), fun h => h ▸ rfl⟩

lemma mapError_eq_error_iff {x : Except ε α} {f : ε → ε'} {e' : ε'} :
    x.mapError f = .error e' ↔ ∃ e, x = .error e ∧ e' = f e := by
  cases x with
  | error e =>
      constructor
      · intro h
        exact ⟨e, rfl, (Except.error.inj h).symm⟩
      · rintro ⟨e₁, he, rfl⟩
        rw [Except.error.inj he]
        rfl
  | ok a =>
      constructor
      · intro h
        exact absurd (show Except.ok a = Except.error e' from h) (by simp)
      · rintro ⟨e, he, -⟩
        exact absurd he (by simp)

/-- Work done for one thing after the other starts from the state that the first leaves. -/
lemma run_mapM_cons (f : α → StateM σ β) (a : α) (rest : List α) (s : σ) :
    ((a :: rest).mapM f).run s =
      (((f a).run s).1 :: ((rest.mapM f).run ((f a).run s).2).1,
        ((rest.mapM f).run ((f a).run s).2).2) := by
  rw [List.mapM_cons]
  rfl

end Radius.Outcome
