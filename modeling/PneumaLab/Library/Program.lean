import Mathlib.Logic.Basic

namespace PneumaLab

def Program (σ ε α : Type) := σ → Except ε α × σ

namespace Program
variable {σ ε α β : Type}

def pure (a : α) : Program σ ε α := fun s => (.ok a,s)

def bind (x : Program σ ε α) (f : α → Program σ ε β) : Program σ ε β := fun s =>
  match x s with
  | (.ok a,t) => f a t
  | (.error e,t) => (.error e,t)

instance : Monad (Program σ ε) where
  pure := pure
  bind := bind

def get : Program σ ε σ := fun s => (.ok s,s)

def modify (f : σ → σ) : Program σ ε Unit := fun s => (.ok (),f s)

def raise (e : ε) : Program σ ε α := fun s => (.error e,s)

def lift (x : Except ε α) : Program σ ε α := fun s => (x,s)

def update (f : σ → Except ε σ) : Program σ ε Unit := fun s =>
  match f s with
  | .ok t => (.ok (),t)
  | .error e => (.error e,s)

def handle (x : Program σ ε α) (handler : ε → Program σ ε α) : Program σ ε α := fun s =>
  match x s with
  | (.ok a,t) => (.ok a,t)
  | (.error e,t) => handler e t

section Runs

theorem bind_run_ok {x : Program σ ε α} {f : α → Program σ ε β} {s t : σ} {a : α} (h : x s = (.ok a,t)) :
    (x >>= f) s = f a t := by
  change bind x f s = f a t
  rw [bind,h]

theorem bind_run_error {x : Program σ ε α} {f : α → Program σ ε β} {s t : σ} {e : ε} (h : x s = (.error e,t)) :
    (x >>= f) s = (.error e,t) := by
  change bind x f s = (.error e,t)
  rw [bind,h]

theorem bind_run_eq_ok {x : Program σ ε α} {f : α → Program σ ε β} {s u : σ} {b : β} :
    (x >>= f) s = (.ok b,u) ↔ ∃ a t, x s = (.ok a,t) ∧ f a t = (.ok b,u) := by
  cases hx : x s with
  | mk result t =>
    cases result with
    | ok a =>
      rw [bind_run_ok hx]
      constructor
      · intro h
        exact ⟨a,t,rfl,h⟩
      · rintro ⟨a',t',heq,h⟩
        cases heq
        exact h
    | error e =>
      rw [bind_run_error hx]
      constructor
      · intro h
        cases h
      · rintro ⟨a',t',heq,_⟩
        cases heq

@[simp] theorem get_run {s : σ} : (get : Program σ ε σ) s = (.ok s,s) := rfl

@[simp] theorem modify_run {f : σ → σ} {s : σ} : (modify f : Program σ ε Unit) s = (.ok (),f s) := rfl

@[simp] theorem pure_run {a : α} {s : σ} : (Pure.pure a : Program σ ε α) s = (.ok a,s) := rfl

@[simp] theorem raise_run {e : ε} {s : σ} : (raise e : Program σ ε α) s = (.error e,s) := rfl

@[simp] theorem lift_run {x : Except ε α} {s : σ} : (lift x : Program σ ε α) s = (x,s) := rfl

theorem update_run_ok {f : σ → Except ε σ} {s t : σ} (h : f s = .ok t) : update f s = (.ok (),t) := by
  rw [update,h]

theorem update_run_error {f : σ → Except ε σ} {s : σ} {e : ε} (h : f s = .error e) : update f s = (.error e,s) := by
  rw [update,h]

end Runs

def Spec (P : σ → Prop) (x : Program σ ε α) (Q : α → σ → Prop) (E : ε → σ → Prop) : Prop :=
  ∀ s, P s → (∀ a t, x s = (.ok a,t) → Q a t) ∧ ∀ e t, x s = (.error e,t) → E e t

section Rules
variable {P P' : σ → Prop} {Q Q' : α → σ → Prop} {R : β → σ → Prop} {E E' : ε → σ → Prop}

theorem Spec.weaken {x : Program σ ε α} (h : Spec P x Q E) (hP : ∀ s, P' s → P s) (hQ : ∀ a s, Q a s → Q' a s)
    (hE : ∀ e s, E e s → E' e s) : Spec P' x Q' E' := by
  intro s hs
  obtain ⟨hok,herror⟩ := h s (hP s hs)
  exact ⟨fun a t ht => hQ a t (hok a t ht),fun e t ht => hE e t (herror e t ht)⟩

theorem Spec.pre {x : Program σ ε α} (h : Spec P x Q E) (hP : ∀ s, P' s → P s) : Spec P' x Q E :=
  h.weaken hP (fun _ _ hq => hq) fun _ _ he => he

theorem Spec.post {x : Program σ ε α} (h : Spec P x Q E) (hQ : ∀ a s, Q a s → Q' a s) : Spec P x Q' E :=
  h.weaken (fun _ hs => hs) hQ fun _ _ he => he

theorem Spec.returned {a : α} (h : ∀ s, P s → Q a s) : Spec P (Pure.pure a : Program σ ε α) Q E := by
  intro s hs
  refine ⟨fun b t ht => ?_,fun e t ht => ?_⟩
  · cases ht
    exact h s hs
  · cases ht

theorem Spec.bind {x : Program σ ε α} {f : α → Program σ ε β} (hx : Spec P x Q E) (hf : ∀ a, Spec (Q a) (f a) R E) :
    Spec P (x >>= f) R E := by
  intro s hs
  obtain ⟨hok,herror⟩ := hx s hs
  have hrun : (x >>= f) s = match x s with
    | (.ok a,t) => f a t
    | (.error e,t) => (.error e,t) := rfl
  rw [hrun]
  cases hxs : x s with
  | mk result t =>
    cases result with
    | ok a => exact hf a t (hok a t hxs)
    | error e =>
      refine ⟨fun a u hu => ?_,fun e' u hu => ?_⟩
      · cases hu
      · cases hu
        exact herror e t hxs

theorem Spec.got {f : σ → Program σ ε β} (h : ∀ s, Spec (fun t => P t ∧ t = s) (f s) R E) : Spec P (get >>= f) R E := by
  intro s hs
  exact h s s ⟨hs,rfl⟩

theorem Spec.modified {f : σ → σ} {Q : Unit → σ → Prop} (h : ∀ s, P s → Q () (f s)) :
    Spec P (modify f : Program σ ε Unit) Q E := by
  intro s hs
  refine ⟨fun b t ht => ?_,fun e t ht => ?_⟩
  · cases ht
    exact h s hs
  · cases ht

theorem Spec.raised {e : ε} (h : ∀ s, P s → E e s) : Spec P (raise e : Program σ ε α) Q E := by
  intro s hs
  refine ⟨fun b t ht => ?_,fun e t ht => ?_⟩
  · cases ht
  · cases ht
    exact h s hs

theorem Spec.lifted {x : Except ε α} (hok : ∀ a s, x = .ok a → P s → Q a s) (herror : ∀ e s, x = .error e → P s → E e s) :
    Spec P (lift x : Program σ ε α) Q E := by
  intro s hs
  refine ⟨fun a t ht => ?_,fun e t ht => ?_⟩
  · cases ht
    exact hok a s rfl hs
  · cases ht
    exact herror e s rfl hs

theorem Spec.updated {f : σ → Except ε σ} {Q : Unit → σ → Prop} (hok : ∀ s t, P s → f s = .ok t → Q () t)
    (herror : ∀ e s, P s → f s = .error e → E e s) : Spec P (update f) Q E := by
  intro s hs
  cases hf : f s with
  | ok t =>
    rw [update_run_ok hf]
    refine ⟨fun a u hu => ?_,fun e u hu => ?_⟩
    · cases hu
      exact hok s t hs hf
    · cases hu
  | error e =>
    rw [update_run_error hf]
    refine ⟨fun a u hu => ?_,fun e' u hu => ?_⟩
    · cases hu
    · cases hu
      exact herror e s hs hf

theorem Spec.handled {x : Program σ ε α} {handler : ε → Program σ ε α} (hx : Spec P x Q E)
    (hhandler : ∀ e, Spec (E e) (handler e) Q E') : Spec P (handle x handler) Q E' := by
  intro s hs
  obtain ⟨hok,herror⟩ := hx s hs
  rw [handle]
  cases hxs : x s with
  | mk result t =>
    cases result with
    | ok a =>
      refine ⟨fun b u hu => ?_,fun e u hu => ?_⟩
      · cases hu
        exact hok a t hxs
      · cases hu
    | error e => exact hhandler e t (herror e t hxs)

theorem Spec.cond {c : Prop} [Decidable c] {x y : Program σ ε α} (hx : c → Spec P x Q E) (hy : ¬ c → Spec P y Q E) :
    Spec P (if c then x else y) Q E := by
  split
  · next h => exact hx h
  · next h => exact hy h

theorem Spec.absurd {x : Program σ ε α} (h : ∀ s, ¬ P s) : Spec P x Q E := fun s hs => (h s hs).elim

theorem Spec.some {ι : Type} {I : ι → σ → Prop} {x : Program σ ε α} (h : ∀ i, Spec (I i) x Q E) :
    Spec (fun s => ∃ i, I i s) x Q E := fun s ⟨i,hs⟩ => h i s hs

theorem Spec.assume {p : Prop} {x : Program σ ε α} (h : p → Spec P x Q E) : Spec (fun s => P s ∧ p) x Q E :=
  fun s hs => h hs.2 s hs.1

theorem Spec.each {ι : Type} {f : ι → Program σ ε Unit} {I : List ι → σ → Prop} {xs : List ι}
    (h : ∀ before x after, xs = before ++ x :: after → Spec (I before) (f x) (fun _ => I (before ++ [x])) E) :
    Spec (I []) (xs.forM f) (fun _ => I xs) E := by
  have hrest (after before : List ι) (hxs : xs = before ++ after) : Spec (I before) (after.forM f) (fun _ => I xs) E := by
    induction after generalizing before with
    | nil =>
      rw [List.append_nil] at hxs
      subst hxs
      exact .returned fun s hs => hs
    | cons x after ih => exact .bind (h before x after hxs) fun _ => ih (before ++ [x]) (by rw [hxs,List.append_assoc]; rfl)
  exact hrest xs [] rfl

end Rules

end Program

end PneumaLab
