import Mathlib.Tactic

namespace PneumaLab

variable {ε α β σ : Type} {P : ε → Prop}

def RaisesOnly (P : ε → Prop) (x : Except ε α) : Prop := ∀ e, x = .error e → P e

namespace RaisesOnly

theorem returned (a : α) : RaisesOnly P (.ok a : Except ε α) := by
  intro e h
  cases h

theorem raised {e : ε} (h : P e) : RaisesOnly P (.error e : Except ε α) := by
  intro e' he
  cases he
  exact h

theorem bind {x : Except ε α} {f : α → Except ε β} (hx : RaisesOnly P x)
    (hf : ∀ a, x = .ok a → RaisesOnly P (f a)) : RaisesOnly P (x >>= f) := by
  intro e h
  cases x with
  | error e' =>
    cases h
    exact hx _ rfl
  | ok a => exact hf a rfl e h

theorem mapM {f : α → Except ε β} (hf : ∀ a, RaisesOnly P (f a)) (xs : List α) : RaisesOnly P (xs.mapM f) := by
  induction xs with
  | nil => exact returned []
  | cons x rest ih =>
    rw [List.mapM_cons]
    exact bind (hf x) fun _ _ => bind ih fun _ _ => returned _

theorem foldlM {step : σ → α → Except ε σ} (hstep : ∀ s a, RaisesOnly P (step s a)) (xs : List α) (s : σ) :
    RaisesOnly P (xs.foldlM step s) := by
  induction xs generalizing s with
  | nil => exact returned s
  | cons x rest ih =>
    rw [List.foldlM_cons]
    exact bind (hstep s x) fun t _ => ih t

end RaisesOnly

theorem bind_eq_error {x : Except ε α} {f : α → Except ε β} {e : ε} :
    (x >>= f) = .error e ↔ x = .error e ∨ ∃ a, x = .ok a ∧ f a = .error e := by
  cases x with
  | error e' => simp [Bind.bind,Except.bind]
  | ok a => simp [Bind.bind,Except.bind]

end PneumaLab
