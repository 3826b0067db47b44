import Mathlib.Algebra.BigOperators.Group.Finset.Basic
import Mathlib.Algebra.Order.BigOperators.Group.Finset
import Mathlib.Data.Fintype.BigOperators
import Mathlib.Tactic

namespace GreedyFill
variable {β : Type} [Fintype β] [DecidableEq β]

def place (counts : β → ℤ) (b : β) (size : ℤ) : β → ℤ := Function.update counts b (counts b + size)

structure Within (targets : β → ℤ) (largest remaining : ℤ) (counts : β → ℤ) : Prop where
  room : ∑ b, (targets b - counts b) = remaining
  bound : ∀ b, counts b ≤ targets b + largest

theorem sum_place (targets counts : β → ℤ) (b : β) (size : ℤ) :
    ∑ c, (targets c - place counts b size c) = ∑ c, (targets c - counts c) - size := by
  have hplace : ∀ c, targets c - place counts b size c = (targets c - counts c) - if c = b then size else 0 := by
    intro c
    by_cases hc : c = b
    · subst hc
      rw [place,Function.update_self,if_pos rfl]
      omega
    · rw [place,Function.update_of_ne hc,if_neg hc,sub_zero]
  simp only [hplace,Finset.sum_sub_distrib,Finset.sum_ite_eq',Finset.mem_univ,if_true]

theorem Within.place {targets counts : β → ℤ} {largest size rest : ℤ} (h : Within targets largest (size + rest) counts) {b : β}
    (hbest : ∀ c, targets c - counts c ≤ targets b - counts b) (hsize : 0 < size) (hlargest : size ≤ largest) (hrest : 0 ≤ rest) :
    Within targets largest rest (GreedyFill.place counts b size) := by
  have hroom : 0 < targets b - counts b := by
    by_contra hnone
    have hall : ∑ c, (targets c - counts c) ≤ 0 := Finset.sum_nonpos fun c _ => (hbest c).trans (not_lt.mp hnone)
    have htotal := h.room
    omega
  constructor
  · rw [sum_place,h.room]
    omega
  · intro c
    by_cases hc : c = b
    · subst hc
      rw [GreedyFill.place,Function.update_self]
      omega
    · rw [GreedyFill.place,Function.update_of_ne hc]
      exact h.bound c

end GreedyFill
