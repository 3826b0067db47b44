import Mathlib.Logic.Equiv.Basic
import Mathlib.Tactic

namespace CyclicShuffle
variable {α β σ : Type} {n : ℕ}

structure Source (σ : Type) where
  upTo : (most : ℕ) → σ → Fin (most + 1) × σ

theorem drawn_lt {bound i drawn : ℕ} (hbound : bound ≤ i) (h : i < n) (hdrawn : drawn < bound + 1) : drawn < n := by omega

def position {bound i : ℕ} (hbound : bound ≤ i) (h : i < n) (drawn : Fin (bound + 1)) : Fin n :=
  ⟨drawn,drawn_lt hbound h drawn.isLt⟩

def swaps (source : Source σ) (bound : ℕ → ℕ) (hbound : ∀ i, bound i ≤ i) : (i : ℕ) → i < n → (Fin n → α) → σ → (Fin n → α) × σ
  | 0, _, xs, s => (xs,s)
  | i + 1, h, xs, s =>
    let drawn := source.upTo (bound (i + 1)) s
    swaps source bound hbound i (Nat.lt_of_succ_lt h) (xs ∘ Equiv.swap ⟨i + 1,h⟩ (position (hbound (i + 1)) h drawn.1)) drawn.2

def shuffle (source : Source σ) (last : ℕ) (h : last < n) (xs : Fin n → α) (s : σ) : (Fin n → α) × σ :=
  swaps source id le_refl last h xs s

def sattolo (source : Source σ) (last : ℕ) (h : last < n) (xs : Fin n → α) (s : σ) : (Fin n → α) × σ :=
  swaps source Nat.pred Nat.pred_le last h xs s

variable (source : Source σ) {bound : ℕ → ℕ} (hbound : ∀ i, bound i ≤ i)

theorem swaps_comp (f : α → β) {i : ℕ} (h : i < n) (xs : Fin n → α) (s : σ) :
    swaps source bound hbound i h (f ∘ xs) s = (f ∘ (swaps source bound hbound i h xs s).1,(swaps source bound hbound i h xs s).2) := by
  induction i generalizing xs s with
  | zero => rfl
  | succ i ih => exact ih _ _ _

theorem swaps_perm {i : ℕ} (h : i < n) (xs : Fin n → α) (s : σ) :
    ∃ e : Equiv.Perm (Fin n), (swaps source bound hbound i h xs s).1 = xs ∘ e := by
  induction i generalizing xs s with
  | zero => exact ⟨1,rfl⟩
  | succ i ih =>
    obtain ⟨e,he⟩ := ih (Nat.lt_of_succ_lt h) (xs ∘ Equiv.swap ⟨i + 1,h⟩ (position (hbound (i + 1)) h (source.upTo (bound (i + 1)) s).1))
      (source.upTo (bound (i + 1)) s).2
    exact ⟨e.trans (Equiv.swap ⟨i + 1,h⟩ (position (hbound (i + 1)) h (source.upTo (bound (i + 1)) s).1)),he⟩

section Cycle

structure Moving (i : ℕ) (places : Fin n → Fin n) : Prop where
  within : ∀ k : Fin n, k.val ≤ i → places k = k ∨ i < (places k).val
  beyond : ∀ k : Fin n, i < k.val → places k ≠ k

theorem Moving.start {i : ℕ} (h : n ≤ i + 1) : Moving i (id : Fin n → Fin n) :=
  ⟨fun _ _ => .inl rfl,fun k hk => absurd k.isLt (by omega)⟩

theorem Moving.step {i : ℕ} {places : Fin n → Fin n} (hmoving : Moving (i + 1) places) (h : i + 1 < n) {j : Fin n} (hj : j.val ≤ i) :
    Moving i (places ∘ Equiv.swap ⟨i + 1,h⟩ j) ∧ i < ((places ∘ Equiv.swap ⟨i + 1,h⟩ j) j).val := by
  have hlast : i < (places ⟨i + 1,h⟩).val := by
    obtain hown | hfar := hmoving.within ⟨i + 1,h⟩ le_rfl
    · rw [hown]
      exact Nat.lt_succ_self i
    · omega
  refine ⟨⟨fun k hk => ?_,fun k hk => ?_⟩,?_⟩
  · by_cases hkj : k = j
    · subst hkj
      rw [Function.comp_apply,Equiv.swap_apply_right]
      exact .inr hlast
    · have hne : k ≠ ⟨i + 1,h⟩ := fun he => by rw [he] at hk; simp at hk
      rw [Function.comp_apply,Equiv.swap_apply_of_ne_of_ne hne hkj]
      exact (hmoving.within k (Nat.le_succ_of_le hk)).imp_right fun hfar => by omega
  · by_cases hlastk : k = ⟨i + 1,h⟩
    · subst hlastk
      rw [Function.comp_apply,Equiv.swap_apply_left]
      intro heq
      obtain hown | hfar := hmoving.within j (Nat.le_succ_of_le hj)
      · rw [hown] at heq
        rw [heq] at hj
        simp at hj
      · rw [heq] at hfar
        simp at hfar
    · have hkj : k ≠ j := fun he => by rw [he] at hk; omega
      have hbeyond : i + 1 < k.val := by
        have hval : k.val ≠ i + 1 := fun he => hlastk (Fin.ext he)
        omega
      rw [Function.comp_apply,Equiv.swap_apply_of_ne_of_ne hlastk hkj]
      exact hmoving.beyond k hbeyond
  · rw [Function.comp_apply,Equiv.swap_apply_right]
    exact hlast

theorem swaps_fixed_free {i : ℕ} (h : i < n) {places : Fin n → Fin n} (hmoving : Moving i places)
    (hmoved : (∃ k : Fin n, k.val ≤ i ∧ i < (places k).val) ∨ 0 < i) (s : σ) (k : Fin n) :
    (swaps source Nat.pred Nat.pred_le i h places s).1 k ≠ k := by
  induction i generalizing places s with
  | zero =>
    obtain ⟨m,hm,hfar⟩ := hmoved.resolve_right (lt_irrefl 0)
    by_cases hk : k.val = 0
    · have hsame : m = k := Fin.ext (by omega)
      subst hsame
      intro heq
      have hown : places m = m := heq
      rw [hown,hk] at hfar
      exact lt_irrefl 0 hfar
    · exact hmoving.beyond k (Nat.pos_of_ne_zero hk)
  | succ i ih =>
    have hj : (position (Nat.pred_le (i + 1)) h (source.upTo (Nat.pred (i + 1)) s).1).val ≤ i :=
      Nat.le_of_lt_succ (source.upTo (Nat.pred (i + 1)) s).1.isLt
    obtain ⟨hnext,hfar⟩ := hmoving.step h hj
    exact ih (Nat.lt_of_succ_lt h) hnext (.inl ⟨_,hj,hfar⟩) _

end Cycle

theorem sattolo_fixed_free {last : ℕ} (hsize : n = last + 1) (h : last < n) (hlast : 0 < last) {xs : Fin n → α}
    (hxs : Function.Injective xs) (s : σ) (k : Fin n) : (sattolo source last h xs s).1 k ≠ xs k := by
  have hcomp := swaps_comp source Nat.pred_le xs h id s
  rw [sattolo,← Function.comp_id xs,hcomp]
  intro heq
  exact swaps_fixed_free source h (Moving.start hsize.le) (.inr hlast) s k (hxs heq)

end CyclicShuffle
