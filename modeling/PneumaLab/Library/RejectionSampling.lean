import Mathlib.Data.Int.CardIntervalMod
import Mathlib.Tactic

namespace RejectionSampling

variable (size bound : ℕ)

def limit : ℕ := size - size % bound

def accepted : Finset ℕ := (Finset.range size).filter fun value => value < limit size bound

theorem limit_eq : limit size bound = bound * (size / bound) := by
  have h := Nat.div_add_mod size bound
  rw [limit]
  omega

theorem dvd_limit : bound ∣ limit size bound := ⟨_,limit_eq size bound⟩

theorem accepted_eq : accepted size bound = Finset.range (limit size bound) := by
  ext value
  have hle : limit size bound ≤ size := Nat.sub_le _ _
  rw [accepted,Finset.mem_filter,Finset.mem_range,Finset.mem_range]
  omega

theorem card_accepted : (accepted size bound).card = limit size bound := by
  rw [accepted_eq,Finset.card_range]

variable {size bound}

theorem lt_two_mul_limit (hpos : 0 < bound) (hle : bound ≤ size) : size < 2 * limit size bound := by
  have hmod := Nat.mod_lt size hpos
  have hone : 1 ≤ size / bound := Nat.div_pos hle hpos
  have hbound : bound ≤ limit size bound := by
    rw [limit_eq]
    exact Nat.le_mul_of_pos_right bound hone
  rw [limit] at hbound ⊢
  omega

theorem card_residue {residue : ℕ} (hr : residue < bound) :
    ((accepted size bound).filter fun value => value % bound = residue).card = limit size bound / bound := by
  have hpos : 0 < bound := (Nat.zero_le residue).trans_lt hr
  have hclass : (fun value => value % bound = residue) = fun value => value ≡ residue [MOD bound] := by
    funext value
    rw [Nat.ModEq,Nat.mod_eq_of_lt hr]
  have hzero : limit size bound % bound = 0 := Nat.mod_eq_zero_of_dvd (dvd_limit size bound)
  rw [accepted_eq]
  simp only [hclass]
  rw [← Nat.count_eq_card_filter_range,Nat.count_modEq_card _ hpos,hzero,if_neg (Nat.not_lt_zero _),add_zero]

end RejectionSampling
