import Mathlib.Algebra.Order.Floor.Ring
import Mathlib.Data.Rat.Floor
import PneumaLab.Gauge.Anova

namespace PneumaLab.Gauge

variable {K : Type} [Field K] [LinearOrder K]

def aggregationReliability (varItem varSystematic varExchangeable : K) (k : ℤ) : Except String K :=
  if k < 1 then .error "k must be >= 1"
  else
    let denom := varItem + varSystematic + varExchangeable / k
    if denom ≤ 0 then .ok 0 else .ok (varItem / denom)

def aggregationAsymptote (varItem varSystematic : K) : K :=
  let denom := varItem + varSystematic
  if denom ≤ 0 then 0 else varItem / denom

inductive Systematic where
  | conditionLocked
  | none
deriving DecidableEq

namespace VarianceComponents

def varSystematic (vc : VarianceComponents K) : Systematic → K
  | .conditionLocked => vc.varCondition + vc.varInteraction
  | .none => 0

def varExchangeable (vc : VarianceComponents K) : Systematic → K
  | .conditionLocked => vc.varRepeatability
  | .none => vc.varGrr

def reliability (vc : VarianceComponents K) (mode : Systematic) (k : ℤ) : Except String K :=
  aggregationReliability vc.varItem (vc.varSystematic mode) (vc.varExchangeable mode) k

def asymptote (vc : VarianceComponents K) (mode : Systematic) : K :=
  aggregationAsymptote vc.varItem (vc.varSystematic mode)

structure Nonneg (vc : VarianceComponents K) : Prop where
  item : 0 ≤ vc.varItem
  condition : 0 ≤ vc.varCondition
  interaction : 0 ≤ vc.varInteraction
  repeatability : 0 ≤ vc.varRepeatability

end VarianceComponents

def requiredK [FloorRing K] (vc : VarianceComponents K) (mode : Systematic) (target : K) : Option ℤ :=
  let varSys := vc.varSystematic mode
  let varExch := vc.varExchangeable mode
  if vc.asymptote mode ≤ target then none
  else if varExch ≤ 0 then some 1
  else
    let denom := vc.varItem * (1 - target) - target * varSys
    if denom ≤ 0 then none else some (max 1 ⌈target * varExch / denom⌉)

section Sufficiency
variable (vc : VarianceComponents K) (mode : Systematic) (target : K)

def Reaches (k : ℤ) : Prop := 1 ≤ k ∧ ∃ r, vc.reliability mode k = .ok r ∧ target ≤ r

structure LeastSufficient [FloorRing K] : Prop where
  increasing : ∀ j k : ℤ, 1 ≤ j → j ≤ k → ∃ r s, vc.reliability mode j = .ok r ∧ vc.reliability mode k = .ok s ∧ r ≤ s
  bounded : ∀ k : ℤ, 1 ≤ k → ∃ r, vc.reliability mode k = .ok r ∧ r ≤ vc.asymptote mode
  returns : (∃ k, requiredK vc mode target = some k) ↔ ∃ k, Reaches vc mode target k
  least : ∀ k, requiredK vc mode target = some k → IsLeast {k | Reaches vc mode target k} k

end Sufficiency

variable [IsStrictOrderedRing K] {vc : VarianceComponents K} {mode : Systematic} {target : K}

namespace VarianceComponents

theorem Nonneg.systematic (h : vc.Nonneg) (mode : Systematic) : 0 ≤ vc.varSystematic mode := by
  cases mode
  · exact add_nonneg h.condition h.interaction
  · exact le_rfl

theorem Nonneg.exchangeable (h : vc.Nonneg) (mode : Systematic) : 0 ≤ vc.varExchangeable mode := by
  cases mode
  · exact h.repeatability
  · exact add_nonneg h.repeatability (add_nonneg h.condition h.interaction)

def spread (vc : VarianceComponents K) (mode : Systematic) (k : ℤ) : K :=
  vc.varItem + vc.varSystematic mode + vc.varExchangeable mode / k

theorem Nonneg.spread (h : vc.Nonneg) (mode : Systematic) {k : ℤ} (hk : 1 ≤ k) :
    vc.varItem + vc.varSystematic mode ≤ vc.spread mode k := by
  have hk' : (0 : K) ≤ k := by exact_mod_cast (zero_le_one.trans hk)
  have hshare := div_nonneg (h.exchangeable mode) hk'
  simpa [VarianceComponents.spread] using hshare

theorem Nonneg.total (h : vc.Nonneg) (mode : Systematic) : 0 ≤ vc.varItem + vc.varSystematic mode :=
  add_nonneg h.item (h.systematic mode)

theorem Nonneg.reliability (h : vc.Nonneg) {k : ℤ} (hk : 1 ≤ k) :
    vc.reliability mode k = .ok (vc.varItem / vc.spread mode k) := by
  have hspread := (h.total mode).trans (h.spread mode hk)
  rw [VarianceComponents.reliability,aggregationReliability,if_neg (not_lt.mpr hk)]
  change (if vc.spread mode k ≤ 0 then _ else _) = _
  split
  · next hle =>
    -- a variance of zero leaves nothing to divide
    rw [le_antisymm hle hspread,div_zero]
  · rfl

theorem Nonneg.asymptote (h : vc.Nonneg) : vc.asymptote mode = vc.varItem / (vc.varItem + vc.varSystematic mode) := by
  rw [VarianceComponents.asymptote,aggregationAsymptote]
  split
  · next hle => rw [le_antisymm hle (h.total mode),div_zero]
  · rfl

theorem Nonneg.ratio_mono (h : vc.Nonneg) {a b : K} (ha : vc.varItem + vc.varSystematic mode ≤ a) (hab : a ≤ b) :
    vc.varItem / b ≤ vc.varItem / a := by
  obtain hpos | hzero := h.item.lt_or_eq
  · have hbase : 0 < vc.varItem + vc.varSystematic mode := add_pos_of_pos_of_nonneg hpos (h.systematic mode)
    exact div_le_div_of_nonneg_left h.item (hbase.trans_le ha) hab
  · simp [← hzero]

theorem Nonneg.increasing (h : vc.Nonneg) {j k : ℤ} (hj : 1 ≤ j) (hjk : j ≤ k) :
    vc.varItem / vc.spread mode j ≤ vc.varItem / vc.spread mode k := by
  refine h.ratio_mono (h.spread mode (hj.trans hjk)) ?_
  have hj' : (0 : K) < j := by exact_mod_cast (zero_lt_one.trans_le hj)
  have hjk' : (j : K) ≤ k := by exact_mod_cast hjk
  have hshare := div_le_div_of_nonneg_left (h.exchangeable mode) hj' hjk'
  simpa [VarianceComponents.spread] using hshare

theorem Nonneg.bounded (h : vc.Nonneg) {k : ℤ} (hk : 1 ≤ k) : vc.varItem / vc.spread mode k ≤ vc.asymptote mode := by
  rw [h.asymptote]
  exact h.ratio_mono le_rfl (h.spread mode hk)

end VarianceComponents

def slack (vc : VarianceComponents K) (mode : Systematic) (target : K) : K :=
  vc.varItem * (1 - target) - target * vc.varSystematic mode

theorem reaches_iff (h : vc.Nonneg) (ht : 0 < target) {k : ℤ} (hk : 1 ≤ k) :
    Reaches vc mode target k ↔ 0 < vc.spread mode k ∧ target * vc.varExchangeable mode ≤ slack vc mode target * k := by
  have hk' : (0 : K) < k := by exact_mod_cast (zero_lt_one.trans_le hk)
  have hreach : Reaches vc mode target k ↔ target ≤ vc.varItem / vc.spread mode k := by
    rw [Reaches,h.reliability hk]
    simp [hk]
  rw [hreach]
  obtain hpos | hzero := ((h.total mode).trans (h.spread mode hk)).lt_or_eq
  · have hscaled : target * vc.spread mode k ≤ vc.varItem ↔
        target * vc.varExchangeable mode / k ≤ slack vc mode target := by
      rw [VarianceComponents.spread,slack,mul_div_assoc]
      constructor <;> intro hle <;> linarith
    rw [le_div_iff₀ hpos,hscaled,div_le_iff₀ hk']
    exact (and_iff_right hpos).symm
  · rw [← hzero,div_zero]
    simp [ht]

theorem target_lt_asymptote_iff (h : vc.Nonneg) (ht : 0 < target) :
    target < vc.asymptote mode ↔ 0 < slack vc mode target := by
  rw [h.asymptote]
  obtain hpos | hzero := (h.total mode).lt_or_eq
  · rw [lt_div_iff₀ hpos,slack]
    constructor <;> intro hlt <;> linarith
  · have hitem : vc.varItem = 0 := by linarith [h.item,h.systematic mode]
    have hsys : vc.varSystematic mode = 0 := by linarith
    simp [slack,hitem,hsys,ht.le]

theorem asymptote_eq_target_iff (h : vc.Nonneg) (ht : 0 < target) :
    vc.asymptote mode = target ↔ 0 < vc.varItem + vc.varSystematic mode ∧ slack vc mode target = 0 := by
  rw [h.asymptote]
  obtain hpos | hzero := (h.total mode).lt_or_eq
  · rw [div_eq_iff hpos.ne',slack]
    constructor
    · exact fun heq => ⟨hpos,by linarith⟩
    · rintro ⟨-,heq⟩
      linarith
  · rw [← hzero,div_zero]
    simp [ht.ne]

theorem requiredK_of_slack [FloorRing K] (h : vc.Nonneg) (ht : 0 < target) (hslack : 0 < slack vc mode target) :
    requiredK vc mode target = some (max 1 ⌈target * vc.varExchangeable mode / slack vc mode target⌉) := by
  rw [requiredK,if_neg (not_le.mpr ((target_lt_asymptote_iff h ht).mpr hslack))]
  dsimp only
  split
  · next hle =>
    have hzero : vc.varExchangeable mode = 0 := le_antisymm hle (h.exchangeable mode)
    simp [hzero]
  · exact if_neg (not_le.mpr hslack)

theorem requiredK_eq_none [FloorRing K] (h : vc.Nonneg) (ht : 0 < target) (hslack : slack vc mode target ≤ 0) :
    requiredK vc mode target = none := by
  rw [requiredK,if_pos]
  exact not_lt.mp (mt (target_lt_asymptote_iff h ht).mp (not_lt.mpr hslack))

theorem isLeast_requiredK [FloorRing K] (h : vc.Nonneg) (ht : 0 < target) (hslack : 0 < slack vc mode target) :
    IsLeast {k | Reaches vc mode target k} (max 1 ⌈target * vc.varExchangeable mode / slack vc mode target⌉) := by
  have hbase : 0 < vc.varItem + vc.varSystematic mode := by
    have hitem : vc.varItem ≠ 0 := by
      intro hzero
      have := mul_nonneg ht.le (h.systematic mode)
      simp only [slack,hzero,zero_mul] at hslack
      linarith
    exact add_pos_of_pos_of_nonneg (h.item.lt_of_ne hitem.symm) (h.systematic mode)
  have hiff : ∀ k : ℤ, 1 ≤ k →
      (Reaches vc mode target k ↔ ⌈target * vc.varExchangeable mode / slack vc mode target⌉ ≤ k) := by
    intro k hk
    rw [reaches_iff h ht hk,and_iff_right (hbase.trans_le (h.spread mode hk)),Int.ceil_le,div_le_iff₀ hslack,mul_comm (k : K)]
  constructor
  · exact (hiff _ (le_max_left _ _)).mpr (le_max_right _ _)
  · intro k hk
    exact max_le hk.1 ((hiff k hk.1).mp hk)

theorem not_reaches (h : vc.Nonneg) (ht : 0 < target) (hslack : slack vc mode target ≤ 0)
    (hapart : ¬(vc.varExchangeable mode = 0 ∧ vc.asymptote mode = target)) (k : ℤ) : ¬Reaches vc mode target k := by
  intro hk
  have hk' : (0 : K) < k := by exact_mod_cast (zero_lt_one.trans_le hk.1)
  obtain ⟨hspread,hle⟩ := (reaches_iff h ht hk.1).mp hk
  have hexch : 0 ≤ target * vc.varExchangeable mode := mul_nonneg ht.le (h.exchangeable mode)
  have hzero : slack vc mode target = 0 := by
    refine le_antisymm hslack (nonneg_of_mul_nonneg_left ?_ hk')
    exact hexch.trans hle
  have hnone : vc.varExchangeable mode = 0 := by
    rw [hzero,zero_mul] at hle
    exact (mul_eq_zero.mp (le_antisymm hle hexch)).resolve_left ht.ne'
  refine hapart ⟨hnone,(asymptote_eq_target_iff h ht).mpr ⟨?_,hzero⟩⟩
  simpa [VarianceComponents.spread,hnone] using hspread

theorem required_averaging_iff [FloorRing K] (h : vc.Nonneg) (ht : 0 < target) :
    LeastSufficient vc mode target ↔ ¬(vc.varExchangeable mode = 0 ∧ vc.asymptote mode = target) := by
  constructor
  · rintro hleast ⟨hexch,htarget⟩
    obtain ⟨hbase,hslack⟩ := (asymptote_eq_target_iff h ht).mp htarget
    have hfirst : Reaches vc mode target 1 := by
      rw [reaches_iff h ht le_rfl,hexch,hslack]
      exact ⟨hbase.trans_le (h.spread mode le_rfl),by simp⟩
    obtain ⟨k,hk⟩ := hleast.returns.mpr ⟨1,hfirst⟩
    rw [requiredK_eq_none h ht hslack.le] at hk
    cases hk
  · intro hapart
    constructor
    · exact fun j k hj hjk => ⟨_,_,h.reliability hj,h.reliability (hj.trans hjk),h.increasing hj hjk⟩
    · exact fun k hk => ⟨_,h.reliability hk,h.bounded hk⟩
    · obtain hslack | hslack := lt_or_ge 0 (slack vc mode target)
      · exact iff_of_true ⟨_,requiredK_of_slack h ht hslack⟩ ⟨_,(isLeast_requiredK h ht hslack).1⟩
      · refine iff_of_false ?_ (fun ⟨k,hk⟩ => not_reaches h ht hslack hapart k hk)
        simp [requiredK_eq_none h ht hslack]
    · intro k hk
      obtain hslack | hslack := lt_or_ge 0 (slack vc mode target)
      · rw [requiredK_of_slack h ht hslack] at hk
        exact Option.some.inj hk ▸ isLeast_requiredK h ht hslack
      · rw [requiredK_eq_none h ht hslack] at hk
        cases hk

def halfNoisy : VarianceComponents ℚ := ⟨1,0,0,1,2,2,2,[],0⟩

theorem half_noisy_required : requiredK halfNoisy .none (7 / 10) = some 3 ∧ LeastSufficient halfNoisy .none (7 / 10) := by
  have hnonneg : halfNoisy.Nonneg := ⟨by decide,by decide,by decide,by decide⟩
  exact ⟨by decide +kernel,(required_averaging_iff hnonneg (by norm_num)).mpr (by decide +kernel)⟩

def lockedNoise : VarianceComponents ℚ := ⟨7,3,0,0,2,2,2,[],0⟩

theorem reached_asymptote_missed :
    requiredK lockedNoise .conditionLocked (7 / 10) = none ∧ Reaches lockedNoise .conditionLocked (7 / 10) 1 ∧
      ¬LeastSufficient lockedNoise .conditionLocked (7 / 10) := by
  have hnone : requiredK lockedNoise .conditionLocked (7 / 10) = none := by decide +kernel
  have hreach : Reaches lockedNoise .conditionLocked (7 / 10) 1 := ⟨le_rfl,7 / 10,by decide +kernel,le_rfl⟩
  refine ⟨hnone,hreach,fun h => ?_⟩
  obtain ⟨k,hk⟩ := h.returns.mpr ⟨1,hreach⟩
  rw [hnone] at hk
  cases hk

end PneumaLab.Gauge
