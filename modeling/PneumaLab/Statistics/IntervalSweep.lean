import PneumaLab.Statistics.Scenario

namespace PneumaLab.Statistics
open IntervalCounts

section Bounds

theorem ceil_le_iff (bound : EReal) (n : ℤ) : ceil bound ≤ ((n : ℝ) : EReal) ↔ bound ≤ ((n : ℝ) : EReal) := by
  induction bound with
  | bot => simp [ceil]
  | top => simp [ceil]
  | coe x => simp [ceil,Int.ceil_le]

theorem le_floor_iff (bound : EReal) (n : ℤ) : ((n : ℝ) : EReal) ≤ floor bound ↔ ((n : ℝ) : EReal) ≤ bound := by
  induction bound with
  | bot => simp [floor]
  | top => simp [floor]
  | coe x => simp [floor,Int.le_floor]

-- What numpy's ceil and floor return: an infinity or an integer.
def Integral (bound : EReal) : Prop := bound = ⊥ ∨ bound = ⊤ ∨ ∃ n : ℤ, bound = ((n : ℝ) : EReal)

theorem integral_ceil (bound : EReal) : Integral (ceil bound) := by
  rw [ceil]
  split
  · exact .inl rfl
  · split
    · exact .inr (.inl rfl)
    · exact .inr (.inr ⟨_,rfl⟩)

theorem integral_floor (bound : EReal) : Integral (floor bound) := by
  rw [floor]
  split
  · exact .inl rfl
  · split
    · exact .inr (.inl rfl)
    · exact .inr (.inr ⟨_,rfl⟩)

theorem clip_cases {bound : EReal} (h : Integral bound) (low high : ℤ) :
    (bound ≤ ((low : ℝ) : EReal) ∧ clip bound low high = low) ∨
      (((low : ℝ) : EReal) < bound ∧ ((high : ℝ) : EReal) ≤ bound ∧ clip bound low high = high) ∨
        bound = ((clip bound low high : ℝ) : EReal) := by
  by_cases hlow : bound ≤ ((low : ℝ) : EReal)
  · exact .inl ⟨hlow,by rw [clip,if_pos hlow]⟩
  · by_cases hhigh : ((high : ℝ) : EReal) ≤ bound
    · exact .inr (.inl ⟨not_le.mp hlow,hhigh,by rw [clip,if_neg hlow,if_pos hhigh]⟩)
    · refine .inr (.inr ?_)
      rcases h with rfl | rfl | ⟨n,rfl⟩
      · exact absurd bot_le hlow
      · exact absurd le_top hhigh
      · rw [clip,if_neg hlow,if_neg hhigh,EReal.toReal_coe,Int.floor_intCast]

theorem cast_le_iff (m n : ℤ) : ((m : ℝ) : EReal) ≤ ((n : ℝ) : EReal) ↔ m ≤ n := by
  rw [EReal.coe_le_coe_iff,Int.cast_le]

theorem clip_le_iff {bound : EReal} (h : Integral bound) {low high n : ℤ} (hlow : low ≤ n) (hhigh : n < high) :
    clip bound low high ≤ n ↔ bound ≤ ((n : ℝ) : EReal) := by
  rcases clip_cases h low high with ⟨hle,hclip⟩ | ⟨_,hge,hclip⟩ | hclip
  · rw [hclip]
    exact iff_of_true hlow (hle.trans ((cast_le_iff low n).mpr hlow))
  · rw [hclip]
    exact iff_of_false (by omega) fun hle => absurd ((cast_le_iff high n).mp (hge.trans hle)) (by omega)
  · conv_rhs => rw [hclip]
    exact (cast_le_iff _ _).symm

theorem le_clip_iff {bound : EReal} (h : Integral bound) {low high n : ℤ} (hlow : low < n) (hhigh : n ≤ high) :
    n ≤ clip bound low high ↔ ((n : ℝ) : EReal) ≤ bound := by
  rcases clip_cases h low high with ⟨hle,hclip⟩ | ⟨_,hge,hclip⟩ | hclip
  · rw [hclip]
    exact iff_of_false (by omega) fun hge => absurd ((cast_le_iff n low).mp (hge.trans hle)) (by omega)
  · rw [hclip]
    exact iff_of_true hhigh (((cast_le_iff n high).mpr hhigh).trans hge)
  · conv_rhs => rw [hclip]
    exact (cast_le_iff _ _).symm

theorem low_le_clip (bound : EReal) {low high : ℤ} (h : low ≤ high) : low ≤ clip bound low high := by
  rw [clip]
  split
  · exact le_rfl
  · next hlow =>
    split
    · exact h
    · next hhigh =>
      induction bound with
      | bot => exact absurd bot_le hlow
      | top => exact absurd le_top hhigh
      | coe x =>
        rw [EReal.toReal_coe]
        rw [EReal.coe_le_coe_iff,not_le] at hlow
        exact Int.le_floor.mpr hlow.le

end Bounds

section Sweep

def Contains (interval : EReal × EReal) (support : ℕ) : Prop :=
  interval.1 ≤ ((support : ℝ) : EReal) ∧ ((support : ℝ) : EReal) ≤ interval.2

theorem min_le_of_mem {supportCounts : List ℕ} {support : ℕ} (h : support ∈ supportCounts) :
    supportCounts.min?.getD 0 ≤ support ∧ support ≤ supportCounts.max?.getD 0 := by
  have hne : supportCounts ≠ [] := List.ne_nil_of_mem h
  obtain ⟨least,hleast⟩ := Option.ne_none_iff_exists'.mp (mt List.min?_eq_none_iff.mp hne)
  obtain ⟨most,hmost⟩ := Option.ne_none_iff_exists'.mp (mt List.max?_eq_none_iff.mp hne)
  rw [hleast,hmost]
  exact ⟨(List.min?_eq_some_iff.mp hleast).2 support h,(List.max?_eq_some_iff.mp hmost).2 support h⟩

theorem open_iff {interval : EReal × EReal} (hlower : interval.1 ≠ ⊥) {minimum maximum support : ℤ} (hmin : minimum ≤ support)
    (hmax : support ≤ maximum) :
    (isfinite (ceil interval.1) ∧ ((minimum : ℝ) : EReal) ≤ floor interval.2 ∧ ceil interval.1 ≤ ((maximum : ℝ) : EReal)) ∧
      clip (ceil interval.1) minimum (maximum + 1) ≤ clip (floor interval.2) (minimum - 1) maximum ∧
      (clip (ceil interval.1) minimum (maximum + 1) - minimum).toNat ≤ (support - minimum).toNat ∧
      (support - minimum).toNat < (clip (floor interval.2) (minimum - 1) maximum - minimum + 1).toNat ↔
    interval.1 ≤ ((support : ℝ) : EReal) ∧ ((support : ℝ) : EReal) ≤ interval.2 := by
  have hstart := clip_le_iff (integral_ceil interval.1) hmin (show support < maximum + 1 by omega)
  have hstop := le_clip_iff (integral_floor interval.2) (show minimum - 1 < support by omega) hmax
  have hlow := low_le_clip (ceil interval.1) (show minimum ≤ maximum + 1 by omega)
  rw [ceil_le_iff] at hstart
  rw [le_floor_iff] at hstop
  constructor
  · rintro ⟨_,_,hbegun,hopen⟩
    exact ⟨hstart.mp (by omega),hstop.mp (by omega)⟩
  · rintro ⟨hbegun,hopen⟩
    have hbegun' := hstart.mpr hbegun
    have hopen' := hstop.mpr hopen
    have hceil := (ceil_le_iff interval.1 support).mpr hbegun
    refine ⟨⟨⟨?_,?_⟩,?_,?_⟩,by omega,by omega,by omega⟩
    · rw [ceil,if_neg hlower]
      split
      · exact top_ne_bot
      · exact EReal.coe_ne_bot _
    · exact ne_top_of_le_ne_top (EReal.coe_ne_top _) hceil
    · exact ((cast_le_iff minimum support).mpr hmin).trans ((le_floor_iff interval.2 support).mpr hopen)
    · exact hceil.trans ((cast_le_iff support maximum).mpr hmax)

open Classical in
theorem countsForIntervals_eq {intervals : List (EReal × EReal)} (hlower : ∀ interval ∈ intervals, interval.1 ≠ ⊥)
    {supportCounts : List ℕ} (hne : supportCounts ≠ []) : countsForIntervals intervals supportCounts =
      .ok (supportCounts.map fun support => (support,(intervals.countP fun interval => Contains interval support : ℤ))) := by
  have hnonempty : (!supportCounts.isEmpty) = true := by simpa using hne
  rw [countsForIntervals,demand,if_pos hnonempty,ok_bind]
  refine congrArg Except.ok (List.map_congr_left fun support hsupport => congrArg (Prod.mk support) ?_)
  obtain ⟨hmin,hmax⟩ := min_le_of_mem hsupport
  have hmin' : ((supportCounts.min?.getD 0 : ℕ) : ℤ) ≤ support := by exact_mod_cast hmin
  have hmax' : (support : ℤ) ≤ (supportCounts.max?.getD 0 : ℕ) := by exact_mod_cast hmax
  rw [cumsum_changes _ _ (by omega),Option.getD_some,countP_open]
  · rw [List.countP_filter,List.countP_map,List.countP_filter,List.countP_map]
    refine congrArg Nat.cast (List.countP_congr fun interval hinterval => ?_)
    have hopen := open_iff (hlower interval hinterval) hmin' hmax'
    have hcast : ((support : ℝ) : EReal) = (((support : ℤ) : ℝ) : EReal) := by norm_num
    simp only [Function.comp_apply,Bool.and_eq_true,decide_eq_true_eq]
    rw [Contains,hcast,← hopen]
    tauto
  · intro value hvalue
    have hle : value.1 ≤ value.2 := of_decide_eq_true (List.mem_filter.mp hvalue).2
    omega

end Sweep

section Tests

def ComponentTest.Passes (test : ComponentTest) (z : ℝ) (support : ℕ) : Prop :=
  test.critical ≤ z + test.theta * Real.sqrt support / test.scale ∧
    ∀ pointGate, test.pointGate = some pointGate → pointGate ≤ test.theta + test.scale * z / Real.sqrt support

structure ComponentTest.Proper (test : ComponentTest) : Prop where
  theta : 0 ≤ test.theta
  scale : 0 < test.scale

theorem ComponentTest.Proper.passes {test : ComponentTest} (h : test.Proper) {z : ℝ} (hz : 0 ≤ z) (hcritical : test.critical ≤ z)
    (hgate : ∀ pointGate, test.pointGate = some pointGate → pointGate ≤ test.theta) (support : ℕ) : test.Passes z support := by
  have hlift : 0 ≤ test.theta * Real.sqrt support / test.scale :=
    div_nonneg (mul_nonneg h.theta (Real.sqrt_nonneg _)) h.scale.le
  have hnoise : 0 ≤ test.scale * z / Real.sqrt support := div_nonneg (mul_nonneg h.scale.le hz) (Real.sqrt_nonneg _)
  exact ⟨hcritical.trans (le_add_of_nonneg_right hlift),
    fun pointGate hpoint => (hgate pointGate hpoint).trans (le_add_of_nonneg_right hnoise)⟩

theorem scaled_le_iff {noise bound s : ℝ} (hnoise : 0 ≤ noise) (hbound : 0 < bound) (hs : 0 ≤ s) :
    noise ≤ bound * Real.sqrt s ↔ (noise / bound) ^ 2 ≤ s := by
  rw [← div_le_iff₀' hbound,Real.le_sqrt (div_nonneg hnoise hbound.le) hs]

theorem le_scaled_iff {noise bound s : ℝ} (hnoise : 0 ≤ noise) (hbound : 0 < bound) :
    bound * Real.sqrt s ≤ noise ↔ s ≤ (noise / bound) ^ 2 := by
  rw [← le_div_iff₀' hbound,Real.sqrt_le_left (div_nonneg hnoise hbound.le)]

theorem critical_iff {theta scale critical z s : ℝ} (htheta : 0 ≤ theta) (hscale : 0 < scale) (hs : 0 < s) :
    critical ≤ z + theta * Real.sqrt s / scale ↔
      (if z < critical then squaredQuotient (scale * (critical - z)) theta else 0) ≤ (s : EReal) := by
  have hroot := Real.sqrt_pos.mpr hs
  by_cases hbelow : z < critical
  · rw [if_pos hbelow,squaredQuotient]
    rcases htheta.eq_or_lt with rfl | htheta
    · rw [if_pos rfl,zero_mul,zero_div,add_zero]
      exact iff_of_false (not_le.mpr hbelow) (not_le.mpr (EReal.coe_lt_top s))
    · rw [if_neg htheta.ne',EReal.coe_le_coe_iff,
        ← scaled_le_iff (mul_nonneg hscale.le (sub_nonneg.mpr hbelow.le)) htheta hs.le,← sub_le_iff_le_add',
        le_div_iff₀ hscale,mul_comm scale]
  · rw [if_neg hbelow]
    refine iff_of_true ?_ (EReal.coe_nonneg.mpr hs.le)
    have hgain : 0 ≤ theta * Real.sqrt s / scale := by positivity
    linarith [not_lt.mp hbelow]

theorem gate_iff_of_pos {gap scale z s : ℝ} (hgap : 0 < gap) (hscale : 0 < scale) (hs : 0 < s) :
    0 ≤ gap + scale * z / Real.sqrt s ↔ (if z < 0 then (scale * -z / gap) ^ 2 else 0) ≤ s := by
  have hroot := Real.sqrt_pos.mpr hs
  split
  · next hneg =>
    rw [← scaled_le_iff (mul_nonneg hscale.le (neg_nonneg.mpr hneg.le)) hgap hs.le,mul_neg,← div_le_iff₀ hroot,neg_div,neg_le_iff_add_nonneg]
  · next hnonneg =>
    refine iff_of_true ?_ hs.le
    have hgain : 0 ≤ scale * z / Real.sqrt s := by
      have hz := not_lt.mp hnonneg
      positivity
    linarith

theorem gate_iff_of_neg {gap scale z s : ℝ} (hgap : gap < 0) (hscale : 0 < scale) (hs : 0 < s) :
    0 ≤ gap + scale * z / Real.sqrt s ↔ s ≤ (if 0 < z then (scale * z / -gap) ^ 2 else -1) := by
  have hroot := Real.sqrt_pos.mpr hs
  split
  · next hpos =>
    rw [← le_scaled_iff (mul_nonneg hscale.le hpos.le) (neg_pos.mpr hgap),← neg_le_iff_add_nonneg',le_div_iff₀ hroot]
  · next hnonpos =>
    refine iff_of_false (fun hle => ?_) (by linarith)
    have hloss : scale * z / Real.sqrt s ≤ 0 :=
      div_nonpos_of_nonpos_of_nonneg (mul_nonpos_of_nonneg_of_nonpos hscale.le (not_lt.mp hnonpos)) hroot.le
    linarith

theorem gate_iff_of_zero {scale z s : ℝ} (hscale : 0 < scale) (hs : 0 < s) :
    0 ≤ scale * z / Real.sqrt s ↔ 0 ≤ z := by
  have hroot := Real.sqrt_pos.mpr hs
  rw [le_div_iff₀ hroot,zero_mul,mul_nonneg_iff_of_pos_left hscale]

theorem interval_iff {test : ComponentTest} (h : test.Proper) (z : ℝ) {support : ℕ} (hsupport : 0 < support) :
    Contains (test.interval z) support ↔ test.Passes z support := by
  have hs : (0 : ℝ) < support := Nat.cast_pos.mpr hsupport
  obtain ⟨theta,scale,critical,pointGate⟩ := test
  have htheta : 0 ≤ theta := h.theta
  have hscale : 0 < scale := h.scale
  have hcritical : critical ≤ z + theta * Real.sqrt support / scale ↔
      (if z < critical then squaredQuotient (scale * (critical - z)) theta else 0) ≤ ((support : ℝ) : EReal) :=
    critical_iff htheta hscale hs
  cases pointGate with
  | none =>
    simp only [Contains,ComponentTest.interval,testInterval,ComponentTest.Passes,le_top,and_true,
      hcritical,reduceCtorEq,false_imp_iff,implies_true]
  | some pointGate =>
    have hgate : pointGate ≤ theta + scale * z / Real.sqrt support ↔
        0 ≤ (theta - pointGate) + scale * z / Real.sqrt support := by
      constructor <;> intro hle <;> linarith
    simp only [Contains,ComponentTest.interval,testInterval,ComponentTest.Passes,Option.some.injEq,forall_eq',hcritical,hgate]
    rcases lt_trichotomy (theta - pointGate) 0 with hneg | hzero | hpos
    · rw [if_neg hneg.not_gt,if_pos hneg,gate_iff_of_neg hneg hscale hs]
      simp only [EReal.coe_le_coe_iff]
    · rw [hzero,if_neg (lt_irrefl 0),if_neg (lt_irrefl 0),zero_add,gate_iff_of_zero hscale hs]
      by_cases hz : z < 0
      · rw [if_pos hz]
        simp only [EReal.coe_le_coe_iff]
        exact and_congr_right fun _ => iff_of_false (by linarith) (not_le.mpr hz)
      · rw [if_neg hz]
        simp only [le_top,and_true,not_lt.mp hz]
    · rw [if_pos hpos,gate_iff_of_pos hpos hscale hs]
      simp only [EReal.coe_le_coe_iff,le_top,and_true,max_le_iff]

theorem lower_ne_bot (theta scale critical z : ℝ) :
    (if z < critical then squaredQuotient (scale * (critical - z)) theta else 0) ≠ ⊥ := by
  rw [squaredQuotient]
  split_ifs
  · exact top_ne_bot
  · exact EReal.coe_ne_bot _
  · exact EReal.coe_ne_bot 0

theorem interval_lower_ne_bot (test : ComponentTest) (z : ℝ) : (test.interval z).1 ≠ ⊥ := by
  obtain ⟨theta,scale,critical,pointGate⟩ := test
  have hlower := lower_ne_bot theta scale critical z
  cases pointGate with
  | none => exact hlower
  | some pointGate =>
    simp only [ComponentTest.interval,testInterval]
    rcases lt_trichotomy (theta - pointGate) 0 with hneg | hzero | hpos
    · rwa [if_neg hneg.not_gt,if_pos hneg]
    · rwa [hzero,if_neg (lt_irrefl 0),if_neg (lt_irrefl 0)]
    · rw [if_pos hpos]
      exact fun hbot => hlower (max_eq_bot.mp hbot).1

end Tests

section Combined

theorem combine_contains (intervals : List (EReal × EReal)) (support : ℕ) :
    Contains (combine intervals) support ↔ ∀ interval ∈ intervals, Contains interval support := by
  induction intervals with
  | nil => simp [Contains,combine]
  | cons interval intervals ih =>
    have hsplit : Contains (combine (interval :: intervals)) support ↔
        Contains interval support ∧ Contains (combine intervals) support := by
      simp only [Contains,combine,List.foldr_cons,max_le_iff,le_min_iff]
      tauto
    rw [hsplit,ih,List.forall_mem_cons]

theorem combine_lower_ne_bot {intervals : List (EReal × EReal)} (hne : intervals ≠ [])
    (h : ∀ interval ∈ intervals, interval.1 ≠ ⊥) : (combine intervals).1 ≠ ⊥ := by
  cases intervals with
  | nil => exact absurd rfl hne
  | cons interval intervals =>
    intro hbot
    exact h interval List.mem_cons_self (max_eq_bot.mp hbot).1

theorem componentNames_ne_nil (tier : Tier) (scope : Scope) : componentNames tier scope ≠ [] := by
  cases tier <;> cases scope <;> simp [componentNames,comparators]

end Combined

end PneumaLab.Statistics
