import Mathlib.Data.List.Forall2

namespace PneumaLab

section Traversal

variable {ε α β σ : Type}

theorem mapM_eq_some {f : α → Option β} {xs : List α} {ys : List β} :
    xs.mapM f = some ys ↔ List.Forall₂ (fun x y => f x = some y) xs ys := by
  induction xs generalizing ys with
  | nil => cases ys <;> simp
  | cons x xs ih =>
    simp only [List.mapM_cons,Option.bind_eq_bind,Option.bind_eq_some_iff,Option.pure_def,
      Option.some.injEq]
    constructor
    · rintro ⟨y,hy,ys',hys,rfl⟩
      exact .cons hy (ih.mp hys)
    · rintro (_ | ⟨hy,hys⟩)
      exact ⟨_,hy,_,ih.mpr hys,rfl⟩

@[simp] theorem ok_bind (a : α) (f : α → Except ε β) : ((.ok a : Except ε α) >>= f) = f a := rfl

@[simp] theorem bind_eq_ok {x : Except ε α} {f : α → Except ε β} {b : β} :
    (x >>= f) = .ok b ↔ ∃ a, x = .ok a ∧ f a = .ok b := by
  cases x with
  | error e => simp [bind,Except.bind]
  | ok a => simp [bind,Except.bind]

theorem mapM_eq_ok {f : α → Except ε β} {xs : List α} {ys : List β} :
    xs.mapM f = .ok ys ↔ List.Forall₂ (fun x y => f x = .ok y) xs ys := by
  induction xs generalizing ys with
  | nil => cases ys <;> simp [pure,Except.pure]
  | cons x xs ih =>
    simp only [List.mapM_cons,bind_eq_ok,pure,Except.pure,Except.ok.injEq]
    constructor
    · rintro ⟨y,hy,ys',hys,rfl⟩
      exact .cons hy (ih.mp hys)
    · rintro (_ | ⟨hy,hys⟩)
      exact ⟨_,hy,_,ih.mpr hys,rfl⟩

theorem forM_eq_ok {f : α → Except ε Unit} {xs : List α} {u : Unit} :
    xs.forM f = .ok u ↔ ∀ x ∈ xs, f x = .ok () := by
  induction xs with
  | nil => simp [pure,Except.pure]
  | cons x xs ih =>
    rw [List.forM,bind_eq_ok,List.forall_mem_cons]
    constructor
    · rintro ⟨_,hx,hrest⟩
      exact ⟨hx,ih.mp hrest⟩
    · rintro ⟨hx,hrest⟩
      exact ⟨(),hx,ih.mpr hrest⟩

theorem exists_right_of_forall₂ {R : α → β → Prop} {xs : List α} {ys : List β} (h : List.Forall₂ R xs ys)
    {x : α} (hx : x ∈ xs) : ∃ y ∈ ys, R x y := by
  induction h with
  | nil => exact absurd hx List.not_mem_nil
  | cons hhead _ ih =>
    rcases List.mem_cons.mp hx with rfl | hrest
    · exact ⟨_,List.mem_cons_self,hhead⟩
    · obtain ⟨y,hy,hR⟩ := ih hrest
      exact ⟨y,List.mem_cons_of_mem _ hy,hR⟩

theorem map_eq_of_forall₂ {γ : Type} {f : α → γ} {g : β → γ} {xs : List α} {ys : List β}
    (h : List.Forall₂ (fun x y => f x = g y) xs ys) : xs.map f = ys.map g := by
  induction h with
  | nil => rfl
  | cons hhead _ ih => rw [List.map_cons,List.map_cons,hhead,ih]

theorem anyM_eq_false {p : α → Except ε Bool} {xs : List α} :
    xs.anyM p = .ok false ↔ ∀ x ∈ xs, p x = .ok false := by
  induction xs with
  | nil => simp [pure,Except.pure]
  | cons x xs ih =>
    rw [List.anyM,bind_eq_ok,List.forall_mem_cons]
    constructor
    · rintro ⟨hit,hx,hrest⟩
      cases hit with
      | true => cases hrest
      | false => exact ⟨hx,ih.mp hrest⟩
    · rintro ⟨hx,hrest⟩
      exact ⟨false,hx,ih.mpr hrest⟩

theorem foldlM_reaches {step : σ → α → Except ε σ} {P : List α → σ → Prop} {xs : List α} {s t : σ}
    (hstart : P [] s)
    (hstep : ∀ done x s t, done ++ [x] <+: xs → P done s → step s x = .ok t → P (done ++ [x]) t)
    (hrun : xs.foldlM step s = .ok t) : P xs t := by
  suffices hmid : ∀ rest done s, done ++ rest = xs → P done s → rest.foldlM step s = .ok t → P xs t from
    hmid xs [] s rfl hstart hrun
  intro rest
  induction rest with
  | nil =>
    intro done s hsplit hs ht
    rw [List.append_nil] at hsplit
    cases ht
    exact hsplit ▸ hs
  | cons x rest ih =>
    intro done s hsplit hs ht
    rw [List.foldlM_cons,bind_eq_ok] at ht
    obtain ⟨mid,hmid,hrest⟩ := ht
    have hsplit' : (done ++ [x]) ++ rest = xs := by rw [List.append_assoc]; exact hsplit
    exact ih (done ++ [x]) mid hsplit' (hstep done x s mid ⟨rest,hsplit'⟩ hs hmid) hrest

end Traversal

end PneumaLab
