import Mathlib.Data.Int.Log
import Mathlib.Data.Rat.Floor
import Mathlib.Tactic

namespace Rounding

def halfEven (q : ℚ) : ℤ :=
  if q - ⌊q⌋ < 1 / 2 then ⌊q⌋
  else if 1 / 2 < q - ⌊q⌋ then ⌊q⌋ + 1
  else if ⌊q⌋ % 2 = 0 then ⌊q⌋ else ⌊q⌋ + 1

-- A binary64 significand has 53 bits, and below 2 ^ -1022 the spacing stays at 2 ^ -1074.
def unitExponent (q : ℚ) : ℤ := max (Int.log 2 q - 52) (-1074)

-- The nearest double of a number from zero to the largest finite double, ties to even.
def double (q : ℚ) : ℚ := halfEven (q / 2 ^ unitExponent q) * 2 ^ unitExponent q

theorem floor_le_halfEven (q : ℚ) : ⌊q⌋ ≤ halfEven q := by
  unfold halfEven
  split_ifs <;> omega

theorem halfEven_le_floor_succ (q : ℚ) : halfEven q ≤ ⌊q⌋ + 1 := by
  unfold halfEven
  split_ifs <;> omega

@[simp] theorem halfEven_intCast (n : ℤ) : halfEven n = n := by
  simp [halfEven]

theorem halfEven_mono : Monotone halfEven := by
  intro q r h
  have hfloor : ⌊q⌋ ≤ ⌊r⌋ := Int.floor_le_floor h
  by_cases heq : ⌊q⌋ = ⌊r⌋
  · unfold halfEven
    rw [heq]
    have hsub : q - ⌊r⌋ ≤ r - ⌊r⌋ := sub_le_sub_right h _
    split_ifs <;> first | omega | linarith
  · calc halfEven q ≤ ⌊q⌋ + 1 := halfEven_le_floor_succ q
      _ ≤ ⌊r⌋ := by omega
      _ ≤ halfEven r := floor_le_halfEven r

@[simp] theorem double_zero : double 0 = 0 := by
  have h : halfEven 0 = 0 := by exact_mod_cast halfEven_intCast 0
  simp [double,h]

theorem double_nonneg {q : ℚ} (h : 0 ≤ q) : 0 ≤ double q := by
  have hunit : (0 : ℚ) < 2 ^ unitExponent q := by positivity
  have hround : (0 : ℤ) ≤ halfEven (q / 2 ^ unitExponent q) :=
    (Int.floor_nonneg.mpr (by positivity)).trans (floor_le_halfEven _)
  exact mul_nonneg (by exact_mod_cast hround) hunit.le

theorem halfEven_zpow {n : ℤ} (h : 0 ≤ n) : (halfEven (2 ^ n) : ℚ) = 2 ^ n := by
  lift n to ℕ using h
  have hcast : ((2 : ℚ) ^ (n : ℤ)) = ((2 ^ n : ℤ) : ℚ) := by push_cast; rfl
  rw [hcast,halfEven_intCast]

theorem double_le_zpow {q : ℚ} {n : ℤ} (h : q ≤ 2 ^ n) (hn : unitExponent q ≤ n) :
    double q ≤ 2 ^ n := by
  have hunit : (0 : ℚ) < 2 ^ unitExponent q := by positivity
  have hdiv : q / 2 ^ unitExponent q ≤ 2 ^ (n - unitExponent q) := by
    rw [zpow_sub₀ two_ne_zero]
    gcongr
  have hround : (halfEven (q / 2 ^ unitExponent q) : ℚ) ≤ 2 ^ (n - unitExponent q) := by
    rw [← halfEven_zpow (sub_nonneg.mpr hn)]
    exact_mod_cast halfEven_mono hdiv
  calc double q ≤ 2 ^ (n - unitExponent q) * 2 ^ unitExponent q :=
        mul_le_mul_of_nonneg_right hround hunit.le
    _ = 2 ^ n := by rw [← zpow_add₀ two_ne_zero,sub_add_cancel]

theorem zpow_le_double {q : ℚ} {n : ℤ} (h : 2 ^ n ≤ q) (hn : unitExponent q ≤ n) :
    2 ^ n ≤ double q := by
  have hunit : (0 : ℚ) < 2 ^ unitExponent q := by positivity
  have hdiv : 2 ^ (n - unitExponent q) ≤ q / 2 ^ unitExponent q := by
    rw [zpow_sub₀ two_ne_zero]
    gcongr
  have hround : 2 ^ (n - unitExponent q) ≤ (halfEven (q / 2 ^ unitExponent q) : ℚ) := by
    rw [← halfEven_zpow (sub_nonneg.mpr hn)]
    exact_mod_cast halfEven_mono hdiv
  calc (2 : ℚ) ^ n = 2 ^ (n - unitExponent q) * 2 ^ unitExponent q := by
        rw [← zpow_add₀ two_ne_zero,sub_add_cancel]
    _ ≤ double q := mul_le_mul_of_nonneg_right hround hunit.le

theorem double_mono : MonotoneOn double (Set.Ici 0) := by
  intro q hq r hr h
  rcases (Set.mem_Ici.mp hq).eq_or_lt with rfl | hpos
  · rw [double_zero]
    exact double_nonneg hr
  · have hlog : Int.log 2 q ≤ Int.log 2 r := Int.log_mono_right hpos h
    by_cases hunits : unitExponent q = unitExponent r
    · have hunit : (0 : ℚ) < 2 ^ unitExponent r := by positivity
      have hround : halfEven (q / 2 ^ unitExponent r) ≤ halfEven (r / 2 ^ unitExponent r) :=
        halfEven_mono (by gcongr)
      unfold double
      rw [hunits]
      exact mul_le_mul_of_nonneg_right (by exact_mod_cast hround) hunit.le
    · have hlt : Int.log 2 q < Int.log 2 r := by unfold unitExponent at hunits; omega
      have hnormal : -1074 < Int.log 2 r - 52 := by unfold unitExponent at hunits; omega
      have hbelow : q ≤ 2 ^ Int.log 2 r := by
        have hself : q < 2 ^ (Int.log 2 q + 1) := by
          exact_mod_cast Int.lt_zpow_succ_log_self (b := 2) (by decide) q
        exact hself.le.trans (zpow_le_zpow_right₀ one_le_two (by omega))
      have habove : 2 ^ Int.log 2 r ≤ r := by
        exact_mod_cast Int.zpow_log_le_self (b := 2) (by decide) (hpos.trans_le h)
      calc double q ≤ 2 ^ Int.log 2 r := double_le_zpow hbelow (by unfold unitExponent; omega)
        _ ≤ double r := zpow_le_double habove (by unfold unitExponent; omega)

theorem double_of_unit_le {q : ℚ} {m e : ℤ} (hq : q = m * 2 ^ e) (hunit : unitExponent q ≤ e) : double q = q := by
  have hshift : (2 : ℚ) ^ (e - unitExponent q) = ((2 ^ (e - unitExponent q).toNat : ℤ) : ℚ) := by
    rw [Int.cast_pow,← zpow_natCast,Int.toNat_of_nonneg (sub_nonneg.mpr hunit)]
    rfl
  have hdiv : q / 2 ^ unitExponent q = ((m * 2 ^ (e - unitExponent q).toNat : ℤ) : ℚ) := by
    rw [Int.cast_mul,← hshift,zpow_sub₀ two_ne_zero,← mul_div_assoc,← hq]
  have hpos : (0 : ℚ) < 2 ^ unitExponent q := by positivity
  rw [double,hdiv,halfEven_intCast,← hdiv]
  exact div_mul_cancel₀ q hpos.ne'

theorem unit_le_of_lt {q : ℚ} {e : ℤ} (hpos : 0 < q) (hlt : q < 2 ^ (53 + e)) (he : -1074 ≤ e) :
    unitExponent q ≤ e := by
  have hlog : Int.log 2 q < 53 + e := (Int.lt_zpow_iff_log_lt (by decide) hpos).mp (by exact_mod_cast hlt)
  unfold unitExponent
  omega

theorem double_scaled {m e : ℤ} (hnonneg : 0 ≤ m) (hm : m ≤ 2 ^ 53) (he : -1074 ≤ e) :
    double (m * 2 ^ e) = m * 2 ^ e := by
  have hunit : (0 : ℚ) < 2 ^ e := by positivity
  rcases hnonneg.eq_or_lt with rfl | hpos
  · simp
  · have hvalue : (0 : ℚ) < m * 2 ^ e := mul_pos (by exact_mod_cast hpos) hunit
    rcases hm.eq_or_lt with rfl | hlt
    · have hhalf : (((2 ^ 53 : ℤ) : ℚ)) * 2 ^ e = ((2 ^ 52 : ℤ) : ℚ) * 2 ^ (e + 1) := by
        rw [zpow_add₀ two_ne_zero]
        push_cast
        ring
      refine double_of_unit_le hhalf (unit_le_of_lt hvalue ?_ (by omega))
      rw [hhalf,add_comm e 1,← add_assoc,zpow_add₀ two_ne_zero (53 + 1) e,zpow_add₀ two_ne_zero 1 e,← mul_assoc]
      exact mul_lt_mul_of_pos_right (by norm_num) hunit
    · refine double_of_unit_le rfl (unit_le_of_lt hvalue ?_ he)
      rw [zpow_add₀ two_ne_zero]
      exact mul_lt_mul_of_pos_right (by exact_mod_cast hlt) hunit

theorem significand_le {q : ℚ} (h : 0 ≤ q) : halfEven (q / 2 ^ unitExponent q) ≤ 2 ^ 53 := by
  have hbound : q < 2 ^ (53 + unitExponent q) := by
    rcases h.eq_or_lt with rfl | hpos
    · positivity
    · have hself : q < 2 ^ (Int.log 2 q + 1) := by
        exact_mod_cast Int.lt_zpow_succ_log_self (b := 2) (by decide) q
      exact hself.trans_le (zpow_le_zpow_right₀ one_le_two (by unfold unitExponent; omega))
  have hunit : (0 : ℚ) < 2 ^ unitExponent q := by positivity
  have hdiv : q / 2 ^ unitExponent q ≤ ((2 ^ 53 : ℤ) : ℚ) := by
    rw [div_le_iff₀ hunit]
    refine hbound.le.trans (le_of_eq ?_)
    rw [zpow_add₀ two_ne_zero]
    norm_num
  calc halfEven (q / 2 ^ unitExponent q) ≤ halfEven ((2 ^ 53 : ℤ) : ℚ) := halfEven_mono hdiv
    _ = 2 ^ 53 := halfEven_intCast _

theorem double_double {q : ℚ} (h : 0 ≤ q) : double (double q) = double q := by
  have hunit : (0 : ℚ) < 2 ^ unitExponent q := by positivity
  have hround : (0 : ℤ) ≤ halfEven (q / 2 ^ unitExponent q) :=
    (Int.floor_nonneg.mpr (by positivity)).trans (floor_le_halfEven _)
  exact double_scaled hround (significand_le h) (le_max_right _ _)

-- The nearest double of a number of either sign.
def nearest (q : ℚ) : ℚ := if q < 0 then -double (-q) else double q

def IsDouble (q : ℚ) : Prop := nearest q = q ∧ Int.log 2 |q| < 1024

instance : DecidablePred IsDouble := fun q => inferInstanceAs (Decidable (nearest q = q ∧ Int.log 2 |q| < 1024))

theorem nearest_of_nonneg {q : ℚ} (h : 0 ≤ q) : nearest q = double q := if_neg (not_lt.mpr h)

theorem nearest_nearest (q : ℚ) : nearest (nearest q) = nearest q := by
  by_cases h : q < 0
  · have hneg : 0 ≤ -q := by linarith
    have hself : nearest q = -double (-q) := if_pos h
    rcases (double_nonneg hneg).eq_or_lt with hzero | hpos
    · rw [hself,← hzero,neg_zero,nearest_of_nonneg le_rfl,double_zero]
    · rw [hself,nearest,if_pos (by linarith),neg_neg,double_double hneg]
  · have hnonneg : 0 ≤ q := not_lt.mp h
    rw [nearest_of_nonneg hnonneg,nearest_of_nonneg (double_nonneg hnonneg),double_double hnonneg]

end Rounding
