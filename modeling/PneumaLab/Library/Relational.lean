import PneumaLab.Library.Traversal

namespace PneumaLab

section Relational

variable {ε α β γ δ : Type}

def Agree (R : α → β → Prop) (x : Except ε α) (y : Except ε β) : Prop := ∀ a b, x = .ok a → y = .ok b → R a b

def Follows (R : α → β → Prop) (x : Except ε α) (y : Except ε β) : Prop :=
  ∀ a, x = .ok a → ∃ b, y = .ok b ∧ R a b

theorem Agree.bind {R : α → β → Prop} {S : γ → δ → Prop} {x : Except ε α} {y : Except ε β}
    {f : α → Except ε γ} {g : β → Except ε δ} (h : Agree R x y) (hrest : ∀ a b, R a b → Agree S (f a) (g b)) :
    Agree S (x >>= f) (y >>= g) := by
  intro c d hc hd
  obtain ⟨a,ha,hc⟩ := bind_eq_ok.mp hc
  obtain ⟨b,hb,hd⟩ := bind_eq_ok.mp hd
  exact hrest a b (h a b ha hb) c d hc hd

theorem Follows.bind {R : α → β → Prop} {S : γ → δ → Prop} {x : Except ε α} {y : Except ε β}
    {f : α → Except ε γ} {g : β → Except ε δ} (h : Follows R x y) (hrest : ∀ a b, R a b → Follows S (f a) (g b)) :
    Follows S (x >>= f) (y >>= g) := by
  intro c hc
  obtain ⟨a,ha,hc⟩ := bind_eq_ok.mp hc
  obtain ⟨b,hb,hR⟩ := h a ha
  obtain ⟨d,hd,hS⟩ := hrest a b hR c hc
  exact ⟨d,bind_eq_ok.mpr ⟨b,hb,hd⟩,hS⟩

theorem Agree.mapM {R : γ → δ → Prop} {f : α → Except ε γ} {g : β → Except ε δ} {xs : List α} {ys : List β}
    (h : List.Forall₂ (fun x y => Agree R (f x) (g y)) xs ys) : Agree (List.Forall₂ R) (xs.mapM f) (ys.mapM g) := by
  induction h with
  | nil =>
    intro cs ds hcs hds
    cases hcs
    cases hds
    exact .nil
  | cons hhead _ ih =>
    rw [List.mapM_cons,List.mapM_cons]
    refine Agree.bind hhead fun c d hR => Agree.bind ih fun cs ds hrest => ?_
    intro _ _ hcs hds
    cases hcs
    cases hds
    exact .cons hR hrest

theorem Follows.mapM {R : γ → δ → Prop} {f : α → Except ε γ} {g : β → Except ε δ} {xs : List α} {ys : List β}
    (h : List.Forall₂ (fun x y => Follows R (f x) (g y)) xs ys) :
    Follows (List.Forall₂ R) (xs.mapM f) (ys.mapM g) := by
  induction h with
  | nil =>
    intro cs hcs
    cases hcs
    exact ⟨[],rfl,.nil⟩
  | cons hhead _ ih =>
    rw [List.mapM_cons,List.mapM_cons]
    refine Follows.bind hhead fun c d hR => Follows.bind ih fun cs ds hrest => ?_
    intro _ hcs
    cases hcs
    exact ⟨_,rfl,.cons hR hrest⟩

theorem find_related {R : α → β → Prop} {p : α → Bool} {q : β → Bool} {xs : List α} {ys : List β} {x : α} {y : β}
    (h : List.Forall₂ (fun x y => p x = q y ∧ R x y) xs ys) (hx : xs.find? p = some x) (hy : ys.find? q = some y) :
    R x y := by
  induction h with
  | nil => cases hx
  | @cons first other _ _ hhead _ ih =>
    obtain ⟨hsame,hR⟩ := hhead
    rw [List.find?_cons] at hx hy
    rw [← hsame] at hy
    cases hp : p first with
    | true =>
      rw [hp] at hx hy
      cases hx
      cases hy
      exact hR
    | false =>
      rw [hp] at hx hy
      exact ih hx hy

end Relational

end PneumaLab
