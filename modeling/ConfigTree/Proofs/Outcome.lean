import Mathlib

/-!
# Outcomes

When a computation that can fail has a value: when each of its steps has one.  Two computations
that agree step by step, as long as the one does not end with certain faults, agree as a whole.

## Main definitions

* `Unless P x y` — the outcomes are the same, unless the first is a fault with `P`.

## Main results

* `bind_eq_ok_iff`, `bind_eq_error_iff` — two steps one after the other.
* `map_eq_ok_iff`, `map_eq_error_iff`, `mapError_eq_ok_iff`, `mapError_eq_error_iff` — a step with
  its value or its fault changed.
* `forall₂_of_mapM_eq_ok` — a step for each item of a list.
* `Unless.bind` — agreement of two steps one after the other.
-/

namespace ConfigTree

variable {ε ε' α β : Type}

@[simp] theorem ok_bind (a : α) (f : α → Except ε β) : (Except.ok a >>= f) = f a := rfl

@[simp] theorem error_bind (e : ε) (f : α → Except ε β) :
    (Except.error e >>= f) = .error e := rfl

@[simp] theorem pure_eq_ok (a : α) : (pure a : Except ε α) = .ok a := rfl

@[simp] theorem throw_eq_error (e : ε) : (throw e : Except ε α) = .error e := rfl

@[simp] theorem bind_ok (x : Except ε α) : (x >>= fun a => .ok a) = x := by
  cases x <;> rfl

/-- Two steps go well together if each does. -/
theorem bind_eq_ok_iff {x : Except ε α} {f : α → Except ε β} {b : β} :
    x >>= f = .ok b ↔ ∃ a, x = .ok a ∧ f a = .ok b := by
  cases x with
  | error e => simp
  | ok a => simp

/-- Two steps fail together if the first does, or else the second. -/
theorem bind_eq_error_iff {x : Except ε α} {f : α → Except ε β} {e : ε} :
    x >>= f = .error e ↔ x = .error e ∨ ∃ a, x = .ok a ∧ f a = .error e := by
  cases x with
  | error e' => simp
  | ok a => simp

theorem map_eq_ok_iff {x : Except ε α} {f : α → β} {b : β} :
    x.map f = .ok b ↔ ∃ a, x = .ok a ∧ f a = b := by
  cases x with
  | error e => simp [Except.map]
  | ok a => simp [Except.map]

theorem map_eq_error_iff {x : Except ε α} {f : α → β} {e : ε} :
    x.map f = .error e ↔ x = .error e := by
  cases x with
  | error e' => simp [Except.map]
  | ok a => simp [Except.map]

/-- The name of a fault does not matter where there is none. -/
theorem mapError_eq_ok_iff {x : Except ε α} {f : ε → ε'} {a : α} :
    x.mapError f = .ok a ↔ x = .ok a := by
  cases x with
  | error e => simp [Except.mapError]
  | ok a => simp [Except.mapError]

theorem mapError_eq_error_iff {x : Except ε α} {f : ε → ε'} {e' : ε'} :
    x.mapError f = .error e' ↔ ∃ e, x = .error e ∧ f e = e' := by
  cases x with
  | error e => simp [Except.mapError]
  | ok a => simp [Except.mapError]

/-- A run over a list has a value of each item. -/
theorem forall₂_of_mapM_eq_ok {f : α → Except ε β} {as : List α} {bs : List β}
    (h : as.mapM f = .ok bs) : List.Forall₂ (fun a b => f a = .ok b) as bs := by
  induction as generalizing bs with
  | nil =>
    cases h
    exact .nil
  | cons a as ih =>
    rw [List.mapM_cons] at h
    obtain ⟨b, hb, hnext⟩ := bind_eq_ok_iff.1 h
    obtain ⟨bs', hbs', hcons⟩ := bind_eq_ok_iff.1 hnext
    cases hcons
    exact .cons hb (ih hbs')

theorem mapM_eq_ok_of_forall₂ {f : α → Except ε β} {as : List α} {bs : List β}
    (h : List.Forall₂ (fun a b => f a = .ok b) as bs) : as.mapM f = .ok bs := by
  induction h with
  | nil => rfl
  | cons ha _ ih =>
    rw [List.mapM_cons, ha, ih]
    rfl

/-! ### Agreement but for some faults -/

/-- The outcomes are the same, unless the first is a fault with `P`. -/
def Unless (P : ε → Prop) (x y : Except ε α) : Prop :=
  x = y ∨ ∃ e, P e ∧ x = .error e

namespace Unless

variable {P Q : ε → Prop} {x y : Except ε α} {f g : α → Except ε β}

theorem refl (x : Except ε α) : Unless P x x := .inl rfl

theorem of_error {e : ε} (h : P e) (y : Except ε α) : Unless P (.error e) y :=
  .inr ⟨e, h, rfl⟩

theorem mono (h : Unless P x y) (hPQ : ∀ e, P e → Q e) : Unless Q x y := by
  rcases h with rfl | ⟨e, he, rfl⟩
  · exact refl x
  · exact of_error (hPQ e he) y

/-- Two steps agree if the first ones do, and the second ones after every value of the first. -/
theorem bind (h : Unless P x y) (hf : ∀ a, x = .ok a → Unless P (f a) (g a)) :
    Unless P (x >>= f) (y >>= g) := by
  rcases h with rfl | ⟨e, he, rfl⟩
  · cases x with
    | error e => exact refl _
    | ok a => exact hf a rfl
  · exact of_error he _

theorem bind_left (h : Unless P x y) (f : α → Except ε β) : Unless P (x >>= f) (y >>= f) :=
  h.bind fun a _ => refl (f a)

/-- Where no fault is excepted, agreement is equality. -/
theorem eq_of_not (h : Unless P x y) (hP : ∀ e, ¬ P e) : x = y := by
  rcases h with h | ⟨e, he, -⟩
  · exact h
  · exact absurd he (hP e)

end Unless

end ConfigTree
