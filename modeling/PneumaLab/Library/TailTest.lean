import Mathlib.Data.Multiset.Count
import Mathlib.Algebra.Order.Field.Rat
import Mathlib.Tactic

namespace TailTest

variable {K : Type} [LinearOrder K]

def share (population : Multiset K) (threshold : K) : ℚ := population.countP (threshold ≤ ·) / population.card

theorem share_nonneg (population : Multiset K) (threshold : K) : 0 ≤ share population threshold :=
  div_nonneg (Nat.cast_nonneg _) (Nat.cast_nonneg _)

theorem exists_countP_le_share {population : Multiset K} (passes : K → Prop) [DecidablePred passes]
    (h : population.filter passes ≠ 0) :
    ∃ lowest, passes lowest ∧
      (population.countP passes : ℚ) / population.card ≤ share population lowest := by
  obtain ⟨lowest,hlowest,hbelow⟩ := Multiset.exists_min_image id h
  obtain ⟨hmem,hpass⟩ := Multiset.mem_filter.mp hlowest
  have habove : population.countP passes ≤ population.countP (lowest ≤ ·) := by
    rw [Multiset.countP_eq_card_filter,Multiset.countP_eq_card_filter]
    refine Multiset.card_le_card ?_
    rw [Multiset.le_filter]
    exact ⟨Multiset.filter_le _ _,fun x hx => hbelow x hx⟩
  refine ⟨lowest,hpass,?_⟩
  rw [share]
  gcongr

theorem round_countP_le {round : ℚ → ℚ} (hround : MonotoneOn round (Set.Ici 0))
    (population : Multiset K) {level : ℚ} (hlevel : round 0 ≤ level) :
    round (population.countP (fun x => round (share population x) ≤ level) / population.card) ≤ level := by
  by_cases hempty : population.filter (fun x => round (share population x) ≤ level) = 0
  · rw [Multiset.countP_eq_card_filter,hempty,Multiset.card_zero,Nat.cast_zero,zero_div]
    exact hlevel
  · obtain ⟨lowest,hpass,hcount⟩ := exists_countP_le_share _ hempty
    have hpart : (0 : ℚ) ≤ population.countP (fun x => round (share population x) ≤ level) /
        population.card := by positivity
    exact (hround hpart (share_nonneg population lowest) hcount).trans hpass

theorem inv_card_le_share {population : Multiset K} {x : K} (h : x ∈ population) :
    1 / (population.card : ℚ) ≤ share population x := by
  have hcount : 0 < population.countP (x ≤ ·) := Multiset.countP_pos.mpr ⟨x,h,le_refl x⟩
  rw [share]
  gcongr
  exact_mod_cast hcount

end TailTest
